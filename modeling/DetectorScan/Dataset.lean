import DetectorScan.FileSet
import DetectorScan.PartitionPlan
import DetectorScan.ReadError
import DetectorScan.TileStream

/-!
# Datasets

A dataset is a recording seen as a scan: its frames, in the order of the file, fill the
axes of the scan. It is read in partitions, each a range of frames with the files that
hold them and the corrections for them.
-/

namespace DetectorScan

/-- Which file to read, and the axes of its scan. -/
structure DatasetParams where
  path : Path
  scan : List Nat
  deriving DecidableEq, Repr

namespace DatasetParams

def frameCount (p : DatasetParams) : Except ConfigError Nat :=
  if p.scan = [] then .error .scanEmpty
  else if 0 ∈ p.scan then .error (.scanAxisZero p.scan)
  else match Word.product p.scan with
    | .ok n => .ok n
    | .error _ => .error (.scanTooLarge p.scan)

end DatasetParams

/-- The parameters that fit a file: a scan of one axis with all its frames. -/
structure DetectedParams where
  parameters : DatasetParams
  deriving DecidableEq, Repr

namespace DetectedParams

/-- The parameters of a file, if it is a recording. -/
def ofFile? (files : FileView) (path : Path) : Option DetectedParams := do
  let header ← (Header.read files path).toOption
  if header.magic ≠ Header.recordingMagic then none
  let content ← (files.read path).toOption
  let frames := countFrames content.size (imageOffset header.version)
    header.trueImageSize.toNat
  return ⟨⟨path, [frames]⟩⟩

end DetectedParams

structure DatasetMeta where
  shape : Shape
  element : ElementType
  deriving DecidableEq, Repr

structure Diagnostic where
  name : String
  value : String
  deriving DecidableEq, Repr

/-! ### Partitions -/

structure Partition where
  info : DatasetMeta
  files : FileSet
  slice : Slice
  corrections : CorrectionSet
  deriving DecidableEq, Repr

namespace Partition

def firstFrame (p : Partition) : Nat :=
  p.slice.firstFrame

def frameCount (p : Partition) : Checked Nat :=
  p.slice.frameCount

def frameSpan (p : Partition) : Checked Span :=
  p.slice.frameSpan

def tiles (p : Partition) (budget : Nat) : TileStream :=
  .ofFileSet p.files budget

def ofSpec (info : DatasetMeta) (files : FileSet) (corrections : CorrectionSet)
    (spec : PartitionSpec) : Except ScanError Partition := do
  return ⟨info, ← files.restrict spec.start spec.stop, spec.slice, corrections⟩

/-- The size in memory of a partition. -/
def size : Nat := 112

def plan (info : DatasetMeta) (files : FileSet) (corrections : CorrectionSet)
    (total count : Nat) (signal : List Nat) : Attempt ScanError (List Partition) := do
  let specs ← planPartitions total count signal
  collect size (ofSpec info files corrections) specs

end Partition

/-! ### Datasets -/

def inlineWorkers : Nat := 1

structure Dataset where
  path : Path
  header : Header
  geometry : Geometry
  fileSize : Nat
  info : DatasetMeta
  corrections : CorrectionSet
  workers : Nat
  partitionOverride : Option Nat
  deriving DecidableEq, Repr

namespace Dataset

/-- Opens a dataset for a number of workers, with corrections from a source. The scan is
looked at first, then the header, the geometry, and the corrections last. -/
def load (source : CorrectionSource) (files : FileView) (workers : Nat)
    (params : DatasetParams) : Attempt ReadError Dataset := do
  let declared ← Attempt.ofExcept (params.frameCount.mapError .config)
  let header ← (Header.read files params.path).widen .recording
  Attempt.ofExcept (header.check.mapError .recording)
  let content ← Attempt.ofExcept ((files.read params.path).mapError .storage)
  let geometry ← (Geometry.derive header content.size).widen .recording
  if declared ≠ geometry.frameCount then
    Attempt.refuse (.scan (.frameCount declared geometry.frameCount))
  let corrections ← CorrectionSet.load source files params.path
  return {
    path := params.path
    header
    geometry
    fileSize := content.size
    info := ⟨.ofParts params.scan geometry.signal, geometry.element⟩
    corrections
    workers
    partitionOverride := none }

def withWorkers (d : Dataset) (workers : Nat) : Dataset :=
  { d with workers := max workers 1 }

def withPartitionCount (d : Dataset) (count : Nat) : Dataset :=
  { d with partitionOverride := some (max count 1) }

def loadFor (files : FileView) (workers : Nat) (params : DatasetParams) :
    Attempt ReadError Dataset := do
  return (← load Mrc.read files workers params).withWorkers workers

def numPartitions (d : Dataset) : Nat :=
  d.partitionOverride.getD (partitionCount d.workers d.fileSize)

def fileSet (d : Dataset) : Except ScanError FileSet :=
  FileSet.ofList [{
    path := d.path
    start := 0
    stop := d.geometry.frameCount
    fileStart := 0
    element := d.geometry.element
    signal := d.geometry.signal
    frameHeader := 0
    frameFooter := d.geometry.footerBytes
    fileHeader := d.geometry.imageOffset }]

def partitions (d : Dataset) : Attempt ScanError (List Partition) := do
  let files ← Attempt.ofExcept d.fileSet
  Partition.plan d.info files d.corrections d.geometry.frameCount d.numPartitions
    d.geometry.signal

def boolText (b : Bool) : String :=
  if b then "true" else "false"

def diagnostics (d : Dataset) : List Diagnostic :=
  d.header.fields.map (fun (name, value) => ⟨name, value.display⟩) ++
    [⟨"Footer size", toString d.geometry.footerBytes⟩,
     ⟨"Dark frame included", boolText d.corrections.hasDark⟩,
     ⟨"Gain map included", boolText d.corrections.hasGain⟩]

def display (d : Dataset) : String :=
  "<SEQDataSet of " ++ d.info.element.name ++ " shape=" ++ d.info.shape.text ++ ">"

end Dataset

end DetectorScan
