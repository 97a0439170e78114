import DetectorScan.Correction
import DetectorScan.Geometry
import DetectorScan.ScanError
import DetectorScan.Storage

/-!
# Errors of reading

Everything that can go wrong between a path and the frames of a dataset, with its words.
An error that was met on a lower level keeps its words.
-/

namespace DetectorScan

inductive ReadError where
  | storage (cause : StorageError)
  | recording (cause : RecordingError)
  | scan (cause : ScanError)
  | truncated (path : Path) (frame : Nat)
  | correction (cause : CorrectionError)
  | elementType (expected actual : ElementType)
  deriving DecidableEq, Repr

namespace ReadError

def config (cause : ConfigError) : ReadError :=
  .scan (.config cause)

def message : ReadError → String
  | .storage cause => "I/O error: " ++ cause.message
  | .recording cause => cause.message
  | .scan cause => cause.message
  | .truncated path frame =>
    "file " ++ path.text ++ s!" is truncated: frame {frame} extends past the end of the file"
  | .correction cause => "correction error: " ++ cause.message
  | .elementType expected actual =>
    "tile holds " ++ actual.name ++ " elements, requested " ++ expected.name

end ReadError

/-! ### Reading and writing images -/

namespace Mrc

def read (files : FileView) (path : Path) : Attempt ReadError (Grid Binary32) := do
  let content ← Attempt.ofExcept ((files.map path).mapError .storage)
  (decode content.toBytes).widen fun cause => .correction (.image cause)

/-- Writes an image to a file: the files there then are, and whether it could be written. The
array is encoded before a file is opened. -/
def write (storage : Storage) (path : Path) (image : Grid Binary32) :
    Storage × Except ReadError Unit :=
  match encode image with
  | .error cause => (storage, .error (.correction (.image cause)))
  | .ok content =>
    let (storage, outcome) := storage.write path content
    (storage, outcome.mapError .storage)

end Mrc

/-- Where the images of corrections come from: an image for a path that exists. -/
abbrev CorrectionSource := FileView → Path → Attempt ReadError (Grid Binary32)

namespace CorrectionSet

/-- The image of a kind beside `base`, if there is a file for it. -/
def loadOne (source : CorrectionSource) (files : FileView) (base : Path)
    (kind : CorrectionKind) : Attempt ReadError (Option (Grid Binary32)) := do
  let path := sibling base kind.suffix
  if files.holds path then return some (← source files path) else return none

def load (source : CorrectionSource) (files : FileView) (base : Path) :
    Attempt ReadError CorrectionSet := do
  let dark ← loadOne source files base .dark
  let gain ← loadOne source files base .gain
  return { dark, gain }

end CorrectionSet

end DetectorScan
