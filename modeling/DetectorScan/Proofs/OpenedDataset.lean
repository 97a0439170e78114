import DetectorScan.Dataset
import DetectorScan.FileSet.Tiling
import DetectorScan.Proofs.GrowingRoom
import DetectorScan.Proofs.PartitionSpans
import DetectorScan.Proofs.TileDelivery
import DetectorScan.Proofs.TileFrames

/-!
# Datasets that were opened

What a dataset that was opened knows about its file: the sizes of its frames fit together
and no offset is too large, so that every partition is one run of records of that file.
-/

namespace DetectorScan

/-! ### Geometries -/

/-- The numbers of a geometry fit together and to a file of a size. -/
structure Geometry.Fits (g : Geometry) (fileSize : Nat) : Prop where
  frameBytes_eq : g.frameBytes = g.height * g.width * g.element.size
  record_sum : g.frameBytes + g.footerBytes = g.recordBytes
  record_pos : 0 < g.recordBytes
  record_lt : g.recordBytes < 0x100000000
  height_lt : g.height < 0x100000000
  width_lt : g.width < 0x100000000
  frameCount_eq : g.frameCount = (fileSize - g.imageOffset) / g.recordBytes
  end_lt : g.imageOffset + g.frameCount * g.recordBytes < wordLimit

theorem frameSize?_eq_some {width height size n : Nat}
    (h : Geometry.frameSize? width height size = some n) : n = height * width * size := by
  obtain ⟨pixels, hp, hn⟩ := Option.bind_eq_some_iff.1 h
  obtain ⟨_, rfl⟩ := Word.mul_eq_ok.1 (toOption_eq_some.1 hp)
  obtain ⟨_, rfl⟩ := Word.mul_eq_ok.1 (toOption_eq_some.1 hn)
  rw [Nat.mul_comm height]

/-- What a layout is computed from, and what was asked of it. -/
structure Geometry.DerivedFrom (g : Geometry) (h : Header) (fileSize : Nat) : Prop where
  imageOffset_eq : g.imageOffset = DetectorScan.imageOffset h.version
  recordBytes_eq : g.recordBytes = h.trueImageSize.toNat
  width_eq : g.width = h.width.toNat
  height_eq : g.height = h.height.toNat
  frameBytes_eq : g.frameBytes = g.height * g.width * g.element.size
  frameBytes_le : g.frameBytes ≤ g.recordBytes
  footerBytes_eq : g.footerBytes = g.recordBytes - g.frameBytes
  record_pos : 0 < g.recordBytes
  frameCount_eq : g.frameCount = countFrames fileSize g.imageOffset g.recordBytes
  end_lt : g.imageOffset + g.frameCount * g.recordBytes < wordLimit

theorem Geometry.derivedFrom_of_derive {h : Header} {fileSize : Nat} {g : Geometry}
    (hg : Geometry.derive h fileSize = .ok g) : g.DerivedFrom h fileSize := by
  simp only [derive, Attempt.refuse, error_bind] at hg
  split at hg
  · next element _ =>
    split at hg
    · next frameBytes hframe =>
      have hsize := frameSize?_eq_some hframe
      split at hg
      · contradiction
      split at hg
      · contradiction
      next hpos hle =>
      -- neither the size of all records nor their end is too large
      obtain ⟨records, hrecords, hrest⟩ := bind_eq_ok.1 hg
      obtain ⟨used, hused, hresult⟩ := bind_eq_ok.1 hrest
      obtain ⟨_, rfl⟩ := Word.mul_eq_ok.1 (Attempt.liftM_eq_ok.1 hrecords)
      obtain ⟨hend, _⟩ := Word.add_eq_ok.1 (Attempt.liftM_eq_ok.1 hused)
      cases hresult
      exact {
        imageOffset_eq := rfl
        recordBytes_eq := rfl
        width_eq := rfl
        height_eq := rfl
        frameBytes_eq := hsize
        frameBytes_le := Nat.le_of_not_lt hle
        footerBytes_eq := rfl
        record_pos := Nat.pos_of_ne_zero hpos
        frameCount_eq := rfl
        end_lt := hend }
    · contradiction
  · contradiction

theorem Geometry.fits_of_derive {h : Header} {fileSize : Nat} {g : Geometry}
    (hg : Geometry.derive h fileSize = .ok g) : g.Fits fileSize := by
  have hderived := derivedFrom_of_derive hg
  exact {
    frameBytes_eq := hderived.frameBytes_eq
    record_sum := by
      rw [hderived.footerBytes_eq, Nat.add_sub_cancel' hderived.frameBytes_le]
    record_pos := hderived.record_pos
    record_lt := hderived.recordBytes_eq ▸ h.trueImageSize.toNat_lt
    height_lt := hderived.height_eq ▸ h.height.toNat_lt
    width_lt := hderived.width_eq ▸ h.width.toNat_lt
    frameCount_eq := hderived.frameCount_eq
    end_lt := hderived.end_lt }

variable {g : Geometry} {fileSize : Nat}

namespace Geometry.Fits

theorem frameBytes_lt (h : g.Fits fileSize) : g.frameBytes < 0x100000000 := by
  have hsum := h.record_sum
  have hlt := h.record_lt
  omega

theorem pixels_lt (h : g.Fits fileSize) : g.height * g.width < 0x100000000 := by
  have hlt := h.frameBytes_lt
  have hle : g.height * g.width ≤ g.height * g.width * g.element.size :=
    Nat.le_mul_of_pos_right _ g.element.size_pos
  rw [h.frameBytes_eq] at hlt
  omega

theorem frameCount_lt (h : g.Fits fileSize) : g.frameCount < wordLimit := by
  have hle : g.frameCount ≤ g.frameCount * g.recordBytes :=
    Nat.le_mul_of_pos_right _ h.record_pos
  have hend := h.end_lt
  omega

end Geometry.Fits

/-! ### The file of a dataset -/

def Geometry.sizes (g : Geometry) : FrameSizes where
  frameBytes := g.frameBytes
  stride := g.recordBytes
  height := g.height
  width := g.width

namespace Dataset

/-- The file of a dataset as one run of frames. -/
def wholeRun (d : Dataset) : FileDescriptor where
  path := d.path
  start := 0
  stop := d.geometry.frameCount
  fileStart := 0
  element := d.geometry.element
  signal := d.geometry.signal
  frameHeader := 0
  frameFooter := d.geometry.footerBytes
  fileHeader := d.geometry.imageOffset

variable {d : Dataset}

theorem fileSet_eq (d : Dataset) :
    d.fileSet = .ok ⟨[d.wholeRun], 0, d.geometry.frameCount⟩ := by
  have hvalid : d.wholeRun.Valid := ⟨Nat.le_refl 0, Nat.zero_le _⟩
  exact FileSet.ofList_eq_ok.2 ⟨rfl, rfl, hvalid, rfl, rfl⟩

theorem sized_wholeRun (h : d.geometry.Fits fileSize) :
    d.wholeRun.Sized d.geometry.sizes := by
  have hword : (0x100000000 : Nat) < wordLimit := by decide
  have hpixels := h.pixels_lt
  have hbytes := h.frameBytes_lt
  have hsum := h.record_sum
  have hrecord := h.record_lt
  have hheight := h.height_lt
  have hframe : d.wholeRun.frameBytes = .ok d.geometry.frameBytes := by
    rw [h.frameBytes_eq] at hbytes ⊢
    simp only [FileDescriptor.frameBytes, wholeRun, Geometry.signal]
    rw [Word.product_pair (by omega) (by omega), ok_bind, Word.mul_of_lt (by omega)]
  refine ⟨hframe, ?_, rfl, h.record_pos, h.end_lt, h.frameCount_lt⟩
  simp only [FileDescriptor.stride, hframe, ok_bind]
  simp only [wholeRun, Geometry.sizes]
  rw [Word.add_of_lt (by omega), ok_bind, Word.add_of_lt (by omega)]
  congr 1
  omega

def wholeIn (d : Dataset) (size : Nat) : Nat :=
  (size - d.geometry.imageOffset) / d.geometry.recordBytes

theorem wholeIn_eq (h : d.geometry.Fits fileSize) :
    d.wholeIn fileSize = d.geometry.frameCount :=
  h.frameCount_eq.symm

theorem limit_wholeRun (h : d.geometry.Fits fileSize) (size : Nat) :
    d.wholeRun.limit d.geometry.sizes size = d.wholeIn size := by
  have hpos := h.record_pos
  simp only [FileDescriptor.limit, wholeRun, Geometry.sizes, OpenFile.wholeRecords, wholeIn]
  rw [Nat.zero_add, show max d.geometry.recordBytes 1 = d.geometry.recordBytes by omega]

/-! ### Partitions -/

def partitionOn (d : Dataset) (s : Span) : Partition where
  info := d.info
  files := ⟨FileSet.clipAll s.start s.stop [d.wholeRun], s.start, s.stop⟩
  slice := .frames s.start (s.stop - s.start) d.geometry.signal
  corrections := d.corrections

/-- The runs of frames that the partitions of a dataset take. -/
def plannedSpans (d : Dataset) : List Span :=
  ((List.range (max d.numPartitions 1)).map
    (planned d.geometry.frameCount (max d.numPartitions 1) d.geometry.signal)).map (·.span)

theorem contiguous_plannedSpans (d : Dataset) :
    Contiguous 0 d.plannedSpans d.geometry.frameCount :=
  contiguous_planned d.geometry.signal (Nat.le_max_right ..)

theorem length_plannedSpans (d : Dataset) :
    d.plannedSpans.length = max d.numPartitions 1 := by
  simp [plannedSpans]

/-- There are more partitions than room that is doubled can be had for. -/
def TooManyPartitions (d : Dataset) : Prop :=
  2 ^ 56 < max d.numPartitions 1

instance (d : Dataset) : Decidable d.TooManyPartitions :=
  inferInstanceAs (Decidable (_ < _))

theorem holds_partitions {count : Nat} :
    Growth.doubling.Holds Partition.size count ↔ count ≤ 2 ^ 56 :=
  Growth.holds_doubling_iff (by decide) (by decide) (by decide)

theorem ofSpec_planned (d : Dataset) {count i : Nat} (hi : i < count) :
    Partition.ofSpec d.info ⟨[d.wholeRun], 0, d.geometry.frameCount⟩ d.corrections
        (planned d.geometry.frameCount count d.geometry.signal i) =
      .ok (d.partitionOn (planned d.geometry.frameCount count d.geometry.signal i).span) := by
  have hb := planned_bounds d.geometry.frameCount d.geometry.signal hi
  rw [Partition.ofSpec, FileSet.restrict_eq_ok.2 ⟨⟨hb.1, Nat.zero_le _, hb.2⟩, rfl⟩]
  rfl

theorem mapM_ofSpec_planned (d : Dataset) :
    ((List.range (max d.numPartitions 1)).map
        (planned d.geometry.frameCount (max d.numPartitions 1) d.geometry.signal)).mapM
          (Partition.ofSpec d.info ⟨[d.wholeRun], 0, d.geometry.frameCount⟩ d.corrections) =
      .ok (d.plannedSpans.map d.partitionOn) := by
  rw [plannedSpans, List.map_map]
  refine mapM_eq_ok fun spec hspec => ?_
  obtain ⟨i, hi, rfl⟩ := List.mem_map.1 hspec
  exact ofSpec_planned d (List.mem_range.1 hi)

/-- The partitions of a dataset take more room than their plan, so that theirs decides. -/
theorem partitions_eq (h : d.geometry.Fits fileSize) :
    d.partitions =
      if d.TooManyPartitions then .error (.fault .overflow)
      else .ok (d.plannedSpans.map d.partitionOn) := by
  have hcollect := collect_of_mapM Partition.size d.mapM_ofSpec_planned
  simp only [List.length_map, List.length_range, holds_partitions] at hcollect
  simp only [partitions, Partition.plan, fileSet_eq, Attempt.ofExcept_ok, ok_bind,
    planPartitions_eq _ _ h.frameCount_lt]
  by_cases hmany : d.TooManyPartitions
  · rw [if_pos hmany]
    rw [if_neg (Nat.not_le.2 hmany)] at hcollect
    split
    · rfl
    · exact hcollect
  · have hcount := Nat.le_of_not_lt hmany
    rw [if_pos hcount] at hcollect
    have hplan : ¬ maxObjectSize < max d.numPartitions 1 * partitionSpecSize := by
      rw [maxObjectSize, partitionSpecSize]
      omega
    rw [if_neg hmany, if_neg hplan]
    exact hcollect

/-! ### Opening -/

/-- What is known of a dataset that was opened on a file. -/
structure Opened (d : Dataset) (params : DatasetParams) (content : FileContent) : Prop where
  path_eq : d.path = params.path
  scan_eq : params.frameCount = .ok d.geometry.frameCount
  derive_eq : Geometry.derive d.header content.size = .ok d.geometry
  info_eq : d.info = ⟨.ofParts params.scan d.geometry.signal, d.geometry.element⟩

theorem Opened.fits {params : DatasetParams} {content : FileContent}
    (h : d.Opened params content) : d.geometry.Fits content.size :=
  Geometry.fits_of_derive h.derive_eq

/-- A dataset is opened exactly when each part of it can be had from the files. -/
theorem load_eq_ok {source : CorrectionSource} {files : FileView} {workers : Nat}
    {params : DatasetParams} :
    load source files workers params = .ok d ↔
      ∃ header content geometry corrections,
        params.frameCount = .ok geometry.frameCount ∧
        Header.read files params.path = .ok header ∧ header.check = .ok () ∧
        files.read params.path = .ok content ∧
        Geometry.derive header content.size = .ok geometry ∧
        CorrectionSet.load source files params.path = .ok corrections ∧
        d = {
          path := params.path
          header
          geometry
          fileSize := content.size
          info := ⟨.ofParts params.scan geometry.signal, geometry.element⟩
          corrections
          workers
          partitionOverride := none } := by
  constructor
  · intro h
    simp only [load, Attempt.refuse, error_bind] at h
    obtain ⟨declared, hscan, h₁⟩ := bind_eq_ok.1 h
    obtain ⟨header, hheader, h₂⟩ := bind_eq_ok.1 h₁
    obtain ⟨_, hcheck, h₃⟩ := bind_eq_ok.1 h₂
    obtain ⟨content, hread, h₄⟩ := bind_eq_ok.1 h₃
    obtain ⟨geometry, hderive, h₅⟩ := bind_eq_ok.1 h₄
    have hscan := mapError_eq_ok.1 (Attempt.ofExcept_eq_ok.1 hscan)
    split at h₅
    · contradiction
    · next hcount =>
      obtain ⟨corrections, hcorrections, hresult⟩ := bind_eq_ok.1 h₅
      cases hresult
      rw [Decidable.not_not.1 hcount] at hscan
      exact ⟨header, content, geometry, corrections, hscan, Attempt.widen_eq_ok.1 hheader,
        mapError_eq_ok.1 (Attempt.ofExcept_eq_ok.1 hcheck),
        mapError_eq_ok.1 (Attempt.ofExcept_eq_ok.1 hread), Attempt.widen_eq_ok.1 hderive,
        hcorrections, rfl⟩
  · rintro ⟨header, content, geometry, corrections, hscan, hheader, hcheck, hread, hderive,
      hcorrections, rfl⟩
    simp only [load, hscan, hheader, hcheck, hread, hderive, hcorrections, Attempt.widen,
      mapError_ok, Attempt.ofExcept_ok, ok_bind]
    rw [if_neg (not_not.2 rfl)]
    rfl

theorem opened_of_load {source : CorrectionSource} {files : FileView} {workers : Nat}
    {params : DatasetParams} (h : load source files workers params = .ok d) :
    ∃ content, files.find params.path = .ok (.file content) ∧ d.Opened params content := by
  obtain ⟨header, content, geometry, corrections, hscan, _, _, hread, hderive, _, rfl⟩ :=
    load_eq_ok.1 h
  exact ⟨content, FileView.read_eq_ok.1 hread, rfl, hscan, hderive, rfl⟩

/-- A dataset with other numbers of workers and of partitions. -/
def configured (d : Dataset) (workers : Nat) (override : Option Nat) : Dataset :=
  { d with workers := workers, partitionOverride := override }

theorem configured_withPartitionCount (d : Dataset) (count : Nat) :
    d.withPartitionCount count = d.configured d.workers (some (max count 1)) := rfl

theorem Opened.configured {params : DatasetParams} {content : FileContent}
    (h : d.Opened params content) (workers : Nat) (override : Option Nat) :
    (d.configured workers override).Opened params content :=
  ⟨h.path_eq, h.scan_eq, h.derive_eq, h.info_eq⟩

end Dataset

/-! ### A small recording -/

theorem Header.read_eq {files : FileView} {path : Path} {content : FileContent}
    (h : files.find path = .ok (.file content)) :
    Header.read files path =
      (decode (content.toBytes.take size)).widen fun cause => .invalid (.header cause) := by
  rw [Header.read, FileView.read_eq_ok.2 h, ← FileContent.take_eq]
  rfl

namespace SmallRecording

def path : Path := ⟨"scan.seq"⟩

def header : Header where
  magic := Header.recordingMagic
  version := 4
  width := 2
  height := 2
  bitDepth := 8
  imageFormat := Header.monochrome
  trueImageSize := 6

/-- Two records of 2 × 2 pixels, each with a footer of two bytes. -/
def records : Bytes :=
  [1, 7, 200, 3, 171, 171, 2, 7, 100, 0, 171, 171]

def content : FileContent :=
  .ofBytes (header.encode ++ (List.replicate 392 0 ++ records))

def dark : Grid Binary32 :=
  ⟨[2, 2], [.ofNat 1, .zero, .zero, .zero], rfl⟩

def files : FileView where
  find p :=
    if p = path then .ok (.file content)
    else if p = sibling path CorrectionKind.dark.suffix then
      .ok (.file (.ofBytes (Mrc.header 1 2 2 ++ dark.cells.flatMap Binary32.toBytes)))
    else .error .notFound

def dataset : Dataset where
  path := path
  header := header
  geometry := {
    imageOffset := 1024
    element := .uint8
    height := 2
    width := 2
    frameBytes := 4
    footerBytes := 2
    recordBytes := 6
    frameCount := 2
    trailingBytes := 0
    microseconds := false }
  fileSize := 1036
  info := ⟨.ofParts [2] [2, 2], .uint8⟩
  corrections := { dark := some dark }
  workers := 1
  partitionOverride := none

theorem find_content : files.find path = .ok (.file content) := by
  simp only [files, if_true]

theorem size_content : content.size = 1036 := by
  decide +kernel

theorem size_of_find {c : FileContent} (h : files.find path = .ok (.file c)) :
    c.size = 1036 := by
  cases find_content.symm.trans h
  exact size_content

theorem map_content : files.map path = .ok content :=
  FileView.map_eq_ok.2 ⟨find_content, rfl⟩

theorem addressable : files.Addressable := by
  intro p c hmap
  have hfind := (FileView.map_eq_ok.1 hmap).1
  simp only [files] at hfind
  split at hfind
  · cases hfind
    rw [size_content]
    decide
  · split at hfind
    · cases hfind
      decide +kernel
    · contradiction

theorem header_read : Header.read files path = .ok header := by
  have hdecode : Header.decode header.encode = .ok header := by decide +kernel
  have hlength : header.encode.length = Header.size := by decide +kernel
  rw [Header.read_eq find_content, content, FileContent.toBytes_ofBytes,
    List.take_left' hlength, hdecode]
  rfl

theorem dark_read :
    CorrectionSet.load Mrc.read files path = .ok { dark := some dark } := by
  decide +kernel

theorem load : Dataset.load Mrc.read files 1 ⟨path, [2]⟩ = .ok dataset := by
  have hread : files.read path = .ok content := FileView.read_eq_ok.2 find_content
  have hderive : Geometry.derive header content.size = .ok dataset.geometry := by
    rw [size_content]
    decide +kernel
  refine Dataset.load_eq_ok.2 ⟨header, content, dataset.geometry, { dark := some dark },
    by decide, header_read, by decide, hread, hderive, dark_read, ?_⟩
  rw [size_content]
  rfl

end SmallRecording

end DetectorScan
