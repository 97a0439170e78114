import DetectorScan.Proofs.ImageFiles
import DetectorScan.Proofs.StoredFields

/-!
# What opening a dataset asks for

Opening looks at the scan, the header, the layout and the corrections in this order. A
dataset is there exactly when all of them are in order, and otherwise the error is that of
the first one that is not. Only a correction that is too large for any memory leads to a fault.
-/

namespace DetectorScan

open Attempt

/-! ### Layouts -/

theorem Geometry.faultless_derive (h : Header) {fileSize : Nat} (hsize : fileSize < wordLimit) :
    (derive h fileSize).Faultless := by
  have hoffset : DetectorScan.imageOffset h.version ≤ 8192 := by
    unfold DetectorScan.imageOffset
    split <;> omega
  have hword : 8192 < wordLimit := by decide
  simp only [derive]
  split
  · split
    · split
      · exact faultless_refuse _
      split
      · exact faultless_refuse _
      -- The records that are counted lie in the file, or there are none.
      have hrecords := Nat.div_mul_le_self
        (fileSize - DetectorScan.imageOffset h.version) h.trueImageSize.toNat
      rw [countFrames, Word.mul_of_lt (by omega), liftM_ok, ok_bind, Word.add_of_lt (by omega)]
      exact faultless_ok _
    · exact faultless_refuse _
  · exact faultless_refuse _

/-! ### The conditions -/

/-- The frames of a scan can be counted in a word. -/
structure CountableScan (scan : List Nat) : Prop where
  ne_nil : scan ≠ []
  pos : ∀ n ∈ scan, 0 < n
  lt : volume scan < wordLimit

/-- The file at a path starts with a header. -/
structure HeaderAt (files : FileView) (path : Path) (content : FileContent)
    (header : Header) : Prop where
  found : files.find path = .ok (.file content)
  long : Header.size ≤ content.size
  decoded : Header.decode (content.take Header.size) = .ok header

/-- The file at a path is a recording whose records lie as `geometry` says. -/
structure RecordingAt (files : FileView) (path : Path) (content : FileContent)
    (header : Header) (geometry : Geometry) : Prop
    extends HeaderAt files path content header where
  checked : header.check = .ok ()
  derived : Geometry.derive header content.size = .ok geometry

/-- There is nothing at a path, or there is an image. -/
def AbsentOrImage (files : FileView) (path : Path) : Prop :=
  files.holds path = false ∨
    ∃ content image, files.map path = .ok content ∧ Mrc.decode content.toBytes = .ok image

/-- There can be no room for the image at a path. -/
def OverfullImage (files : FileView) (path : Path) : Prop :=
  ∃ content, files.map path = .ok content ∧ Mrc.Overfull content.toBytes

/-- All that opening asks for. -/
structure Acceptable (files : FileView) (params : DatasetParams) (content : FileContent)
    (header : Header) (geometry : Geometry) : Prop where
  scan : CountableScan params.scan
  recording : RecordingAt files params.path content header geometry
  frames : volume params.scan = geometry.frameCount
  dark : AbsentOrImage files (sibling params.path CorrectionKind.dark.suffix)
  gain : AbsentOrImage files (sibling params.path CorrectionKind.gain.suffix)

/-- Why what is at a path is no image. -/
inductive ImageRefusal (files : FileView) (path : Path) : ReadError → Prop where
  | directory (hfind : files.find path = .ok .directory) :
    ImageRefusal files path (.storage .noDevice)
  | unmapped {content : FileContent} {cause : StorageError}
    (hfind : files.find path = .ok (.file content)) (hunmapped : files.unmapped path = some cause) :
    ImageRefusal files path (.storage cause)
  | malformed {content : FileContent} {cause : MrcError}
    (hmap : files.map path = .ok content)
    (hdecode : Mrc.decode content.toBytes = Attempt.refuse cause) :
    ImageRefusal files path (.correction (.image cause))

/-- The first condition that does not hold, with its error: where a constructor speaks of
one condition, the ones before it hold. -/
inductive OpeningRefusal (files : FileView) (params : DatasetParams) : ReadError → Prop where
  | scanEmpty (hempty : params.scan = []) : OpeningRefusal files params (.config .scanEmpty)
  | scanAxisZero (hne : params.scan ≠ []) (hzero : 0 ∈ params.scan) :
    OpeningRefusal files params (.config (.scanAxisZero params.scan))
  | scanTooLarge (hne : params.scan ≠ []) (hpos : ∀ n ∈ params.scan, 0 < n)
    (hlarge : wordLimit ≤ volume params.scan) :
    OpeningRefusal files params (.config (.scanTooLarge params.scan))
  | unreadable {cause : StorageError} (hscan : CountableScan params.scan)
    (hread : files.read params.path = .error cause) :
    OpeningRefusal files params (.recording (.storage cause))
  | headerShort {content : FileContent} (hscan : CountableScan params.scan)
    (hfind : files.find params.path = .ok (.file content))
    (hshort : content.size < Header.size) :
    OpeningRefusal files params (.recording (.invalid (.header (.tooShort content.size))))
  | headerMalformed {content : FileContent} {cause : HeaderError}
    (hscan : CountableScan params.scan)
    (hfind : files.find params.path = .ok (.file content))
    (hlong : Header.size ≤ content.size)
    (hdecode : Header.decode (content.take Header.size) = Attempt.refuse cause) :
    OpeningRefusal files params (.recording (.invalid (.header cause)))
  | headerChecked {content : FileContent} {header : Header} {cause : RecordingError}
    (hscan : CountableScan params.scan)
    (hheader : HeaderAt files params.path content header)
    (hcheck : header.check = .error cause) :
    OpeningRefusal files params (.recording cause)
  | layout {content : FileContent} {header : Header} {cause : RecordingError}
    (hscan : CountableScan params.scan)
    (hheader : HeaderAt files params.path content header) (hcheck : header.check = .ok ())
    (hderive : Geometry.derive header content.size = Attempt.refuse cause) :
    OpeningRefusal files params (.recording cause)
  | frameCount {content : FileContent} {header : Header} {geometry : Geometry}
    (hscan : CountableScan params.scan)
    (hrecording : RecordingAt files params.path content header geometry)
    (hcount : volume params.scan ≠ geometry.frameCount) :
    OpeningRefusal files params (.scan (.frameCount (volume params.scan) geometry.frameCount))
  | dark {content : FileContent} {header : Header} {geometry : Geometry} {cause : ReadError}
    (hscan : CountableScan params.scan)
    (hrecording : RecordingAt files params.path content header geometry)
    (hcount : volume params.scan = geometry.frameCount)
    (hdark : ImageRefusal files (sibling params.path CorrectionKind.dark.suffix) cause) :
    OpeningRefusal files params cause
  | gain {content : FileContent} {header : Header} {geometry : Geometry} {cause : ReadError}
    (hscan : CountableScan params.scan)
    (hrecording : RecordingAt files params.path content header geometry)
    (hcount : volume params.scan = geometry.frameCount)
    (hdark : AbsentOrImage files (sibling params.path CorrectionKind.dark.suffix))
    (hgain : ImageRefusal files (sibling params.path CorrectionKind.gain.suffix) cause) :
    OpeningRefusal files params cause

/-- All is in order but for a correction that there can be no room for. -/
inductive OpeningOverflow (files : FileView) (params : DatasetParams) : Prop where
  | dark {content : FileContent} {header : Header} {geometry : Geometry}
    (hscan : CountableScan params.scan)
    (hrecording : RecordingAt files params.path content header geometry)
    (hcount : volume params.scan = geometry.frameCount)
    (hdark : OverfullImage files (sibling params.path CorrectionKind.dark.suffix))
  | gain {content : FileContent} {header : Header} {geometry : Geometry}
    (hscan : CountableScan params.scan)
    (hrecording : RecordingAt files params.path content header geometry)
    (hcount : volume params.scan = geometry.frameCount)
    (hdark : AbsentOrImage files (sibling params.path CorrectionKind.dark.suffix))
    (hgain : OverfullImage files (sibling params.path CorrectionKind.gain.suffix))

/-! ### One condition after the other -/

variable {files : FileView} {params : DatasetParams} {path : Path} {content : FileContent}
  {header : Header} {geometry : Geometry} {workers : Nat}

theorem Word.product_eq {dims : List Nat} (hpos : ∀ d ∈ dims, 0 < d) :
    Word.product dims =
      if volume dims < wordLimit then .ok (volume dims) else .error .overflow := by
  rw [Word.product, Word.foldlM_mul hpos (by decide), Nat.one_mul]

theorem CountableScan.product_eq {scan : List Nat} (h : CountableScan scan) :
    Word.product scan = .ok (volume scan) := by
  rw [Word.product_eq h.pos, if_pos h.lt]

theorem CountableScan.frameCount_eq (h : CountableScan params.scan) :
    params.frameCount = .ok (volume params.scan) := by
  have hzero : 0 ∉ params.scan := fun hmem => Nat.lt_irrefl 0 (h.pos 0 hmem)
  rw [DatasetParams.frameCount, if_neg h.ne_nil, if_neg hzero, h.product_eq]

theorem countableScan_of_frameCount {count : Nat} (h : params.frameCount = .ok count) :
    CountableScan params.scan ∧ volume params.scan = count := by
  unfold DatasetParams.frameCount at h
  split at h
  · contradiction
  split at h
  · contradiction
  · next hne hzero =>
    have hpos : ∀ n ∈ params.scan, 0 < n := fun n hn =>
      Nat.pos_of_ne_zero fun h => hzero (h ▸ hn)
    rw [Word.product_eq hpos] at h
    by_cases hlt : volume params.scan < wordLimit
    · rw [if_pos hlt] at h
      exact ⟨⟨hne, hpos, hlt⟩, Except.ok.inj h⟩
    · rw [if_neg hlt] at h
      contradiction

theorem Dataset.Opened.frameCount_pos {d : Dataset} (h : d.Opened params content) :
    0 < d.geometry.frameCount := by
  obtain ⟨hscan, hframes⟩ := countableScan_of_frameCount h.scan_eq
  exact hframes ▸ volume_pos hscan.pos

theorem HeaderAt.read (h : HeaderAt files path content header) :
    Header.read files path = .ok header := by
  rw [Header.read, FileView.read_eq_ok.2 h.found, mapError_ok, ofExcept_ok, ok_bind, h.decoded]
  rfl

theorem image_cases (files : FileView) (path : Path) :
    AbsentOrImage files path ∨ (∃ cause, ImageRefusal files path cause) ∨
      OverfullImage files path := by
  cases hfind : files.find path with
  | error e =>
    refine .inl (.inl ?_)
    rw [FileView.holds, hfind]
    rfl
  | ok found =>
    cases found with
    | directory => exact .inr (.inl ⟨_, .directory hfind⟩)
    | file content =>
      cases hunmapped : files.unmapped path with
      | some cause => exact .inr (.inl ⟨_, .unmapped hfind hunmapped⟩)
      | none =>
        have hmap := FileView.map_eq_ok.2 ⟨hfind, hunmapped⟩
        obtain hfree | hfull := Mrc.faultless_decode_or_overfull content.toBytes
        · obtain ⟨image, himage⟩ | ⟨cause, hcause⟩ := hfree.ok_or_refuse
          · exact .inl (.inr ⟨content, image, hmap, himage⟩)
          · exact .inr (.inl ⟨_, .malformed hmap hcause⟩)
        · exact .inr (.inr ⟨content, hmap, hfull⟩)

theorem holds_of_map (hmap : files.map path = .ok content) : files.holds path = true := by
  rw [FileView.holds, (FileView.map_eq_ok.1 hmap).1]
  rfl

theorem AbsentOrImage.loadOne {kind : CorrectionKind}
    (h : AbsentOrImage files (sibling path kind.suffix)) :
    ∃ image, CorrectionSet.loadOne Mrc.read files path kind = .ok image := by
  rw [CorrectionSet.loadOne]
  obtain habsent | ⟨content, image, hmap, hdecode⟩ := h
  · refine ⟨none, ?_⟩
    rw [habsent]
    rfl
  · refine ⟨some image, ?_⟩
    rw [if_pos (holds_of_map hmap), Mrc.read, hmap, mapError_ok, ofExcept_ok, ok_bind, hdecode]
    rfl

theorem ImageRefusal.loadOne {kind : CorrectionKind} {cause : ReadError}
    (h : ImageRefusal files (sibling path kind.suffix) cause) :
    CorrectionSet.loadOne Mrc.read files path kind = Attempt.refuse cause := by
  rw [CorrectionSet.loadOne]
  cases h with
  | directory hfind =>
    simp only [FileView.holds, hfind, Mrc.read, FileView.map, FileView.contentOr]
    rfl
  | unmapped hfind hunmapped =>
    simp only [FileView.holds, hfind, Mrc.read, FileView.map_of_unmapped hfind hunmapped]
    rfl
  | malformed hmap hdecode =>
    rw [if_pos (holds_of_map hmap), Mrc.read, hmap, mapError_ok, ofExcept_ok, ok_bind, hdecode]
    rfl

theorem OverfullImage.loadOne {kind : CorrectionKind}
    (h : OverfullImage files (sibling path kind.suffix)) :
    CorrectionSet.loadOne Mrc.read files path kind = .error (.fault .overflow) := by
  obtain ⟨content, hmap, hfull⟩ := h
  rw [CorrectionSet.loadOne, if_pos (holds_of_map hmap), Mrc.read, hmap, mapError_ok, ofExcept_ok,
    ok_bind, Mrc.decode_of_overfull hfull]
  rfl

theorem not_overfullImage (haddressable : files.Addressable) : ¬ OverfullImage files path := by
  rintro ⟨content, hmap, hfull⟩
  have hsize : content.size < 2 ^ 57 := haddressable path content hmap
  refine Mrc.not_overfull ?_ hfull
  rw [FileContent.length_toBytes]
  exact hsize.trans (by decide)

theorem not_openingOverflow (haddressable : files.Addressable) :
    ¬ OpeningOverflow files params := by
  intro h
  cases h with
  | dark _ _ _ hdark => exact not_overfullImage haddressable hdark
  | gain _ _ _ _ hgain => exact not_overfullImage haddressable hgain

theorem opening_cases
    (hsize : ∀ content, files.find params.path = .ok (.file content) → content.size < wordLimit) :
    (∃ content header geometry, Acceptable files params content header geometry) ∨
      (∃ cause, OpeningRefusal files params cause) ∨ OpeningOverflow files params := by
  by_cases hempty : params.scan = []
  · exact .inr (.inl ⟨_, .scanEmpty hempty⟩)
  by_cases hzero : 0 ∈ params.scan
  · exact .inr (.inl ⟨_, .scanAxisZero hempty hzero⟩)
  have hpos : ∀ n ∈ params.scan, 0 < n := fun n hn =>
    Nat.pos_of_ne_zero fun h => hzero (h ▸ hn)
  by_cases hlarge : wordLimit ≤ volume params.scan
  · exact .inr (.inl ⟨_, .scanTooLarge hempty hpos hlarge⟩)
  have hscan : CountableScan params.scan := ⟨hempty, hpos, Nat.lt_of_not_le hlarge⟩
  cases hread : files.read params.path with
  | error cause => exact .inr (.inl ⟨_, .unreadable hscan hread⟩)
  | ok content =>
    have hfind := FileView.read_eq_ok.1 hread
    by_cases hshort : content.size < Header.size
    · exact .inr (.inl ⟨_, .headerShort hscan hfind hshort⟩)
    have hlong := Nat.le_of_not_lt hshort
    obtain ⟨header, hdecode⟩ | ⟨cause, hcause⟩ :=
      (Header.faultless_decode (content.take Header.size)).ok_or_refuse
    swap
    · exact .inr (.inl ⟨_, .headerMalformed hscan hfind hlong hcause⟩)
    have hheader : HeaderAt files params.path content header := ⟨hfind, hlong, hdecode⟩
    cases hcheck : header.check with
    | error cause => exact .inr (.inl ⟨_, .headerChecked hscan hheader hcheck⟩)
    | ok _ =>
      obtain ⟨geometry, hderive⟩ | ⟨cause, hcause⟩ :=
        (Geometry.faultless_derive header (hsize content hfind)).ok_or_refuse
      swap
      · exact .inr (.inl ⟨_, .layout hscan hheader hcheck hcause⟩)
      have hrecording : RecordingAt files params.path content header geometry :=
        ⟨hheader, hcheck, hderive⟩
      by_cases hcount : volume params.scan = geometry.frameCount
      swap
      · exact .inr (.inl ⟨_, .frameCount hscan hrecording hcount⟩)
      obtain hdark | ⟨cause, hcause⟩ | hfull :=
        image_cases files (sibling params.path CorrectionKind.dark.suffix)
      rotate_left
      · exact .inr (.inl ⟨_, .dark hscan hrecording hcount hcause⟩)
      · exact .inr (.inr (.dark hscan hrecording hcount hfull))
      obtain hgain | ⟨cause, hcause⟩ | hfull :=
        image_cases files (sibling params.path CorrectionKind.gain.suffix)
      · exact .inl ⟨content, header, geometry, hscan, hrecording, hcount, hdark, hgain⟩
      · exact .inr (.inl ⟨_, .gain hscan hrecording hcount hdark hcause⟩)
      · exact .inr (.inr (.gain hscan hrecording hcount hdark hfull))

/-! ### What opening does -/

namespace Dataset

theorem exists_load_of_acceptable (workers : Nat)
    (h : Acceptable files params content header geometry) :
    ∃ d, load Mrc.read files workers params = .ok d ∧ d.header = header ∧
      d.geometry = geometry := by
  obtain ⟨dark, hdark⟩ := h.dark.loadOne
  obtain ⟨gain, hgain⟩ := h.gain.loadOne
  have hcorrections : CorrectionSet.load Mrc.read files params.path = .ok { dark, gain } := by
    rw [CorrectionSet.load, hdark, ok_bind, hgain]
    rfl
  have hcount : params.frameCount = .ok geometry.frameCount := by
    rw [h.scan.frameCount_eq, h.frames]
  exact ⟨_, load_eq_ok.2 ⟨header, content, geometry, _, hcount, h.recording.read,
    h.recording.checked, FileView.read_eq_ok.2 h.recording.found, h.recording.derived,
    hcorrections, rfl⟩, rfl, rfl⟩

theorem load_of_recording (hscan : CountableScan params.scan)
    (h : RecordingAt files params.path content header geometry) :
    load Mrc.read files workers params =
      if volume params.scan ≠ geometry.frameCount then
        Attempt.refuse (.scan (.frameCount (volume params.scan) geometry.frameCount))
      else do
        let corrections ← CorrectionSet.load Mrc.read files params.path
        return {
          path := params.path
          header
          geometry
          fileSize := content.size
          info := ⟨.ofParts params.scan geometry.signal, geometry.element⟩
          corrections
          workers
          partitionOverride := none } := by
  rw [load, hscan.frameCount_eq, h.read, FileView.read_eq_ok.2 h.found]
  simp only [mapError_ok, ofExcept_ok, ok_bind, widen, h.checked, h.derived]
  rfl

theorem load_of_refusal {cause : ReadError} (h : OpeningRefusal files params cause) :
    load Mrc.read files workers params = Attempt.refuse cause := by
  cases h with
  | scanEmpty hempty =>
    rw [load, DatasetParams.frameCount, if_pos hempty]
    rfl
  | scanAxisZero hne hzero =>
    rw [load, DatasetParams.frameCount, if_neg hne, if_pos hzero]
    rfl
  | scanTooLarge hne hpos hlarge =>
    have hzero : 0 ∉ params.scan := fun hmem => Nat.lt_irrefl 0 (hpos 0 hmem)
    rw [load, DatasetParams.frameCount, if_neg hne, if_neg hzero, Word.product_eq hpos,
      if_neg (Nat.not_lt.2 hlarge)]
    rfl
  | unreadable hscan hread =>
    rw [load, hscan.frameCount_eq, Header.read, hread]
    rfl
  | @headerShort content hscan hfind hshort =>
    have hlength : (content.toBytes.take Header.size).length = content.size := by
      rw [List.length_take, FileContent.length_toBytes, Nat.min_eq_right (Nat.le_of_lt hshort)]
    rw [load, hscan.frameCount_eq, Header.read_eq hfind, Header.decode, hlength, if_pos hshort]
    rfl
  | headerMalformed hscan hfind hlong hdecode =>
    rw [load, hscan.frameCount_eq, Header.read, FileView.read_eq_ok.2 hfind, mapError_ok,
      ofExcept_ok, mapError_ok, ofExcept_ok, ok_bind, ok_bind, hdecode]
    rfl
  | headerChecked hscan hheader hcheck =>
    rw [load, hscan.frameCount_eq, hheader.read, mapError_ok, ofExcept_ok, ok_bind, widen, ok_bind,
      hcheck]
    rfl
  | layout hscan hheader hcheck hderive =>
    rw [load, hscan.frameCount_eq, hheader.read, FileView.read_eq_ok.2 hheader.found]
    simp only [mapError_ok, ofExcept_ok, ok_bind, widen, hcheck, hderive]
    rfl
  | frameCount hscan hrecording hcount => rw [load_of_recording hscan hrecording, if_pos hcount]
  | dark hscan hrecording hcount hdark =>
    rw [load_of_recording hscan hrecording, if_neg (not_not.2 hcount), CorrectionSet.load,
      hdark.loadOne]
    rfl
  | gain hscan hrecording hcount hdark hgain =>
    obtain ⟨image, himage⟩ := hdark.loadOne
    rw [load_of_recording hscan hrecording, if_neg (not_not.2 hcount), CorrectionSet.load, himage,
      ok_bind, hgain.loadOne]
    rfl

theorem load_of_overflow (h : OpeningOverflow files params) :
    load Mrc.read files workers params = .error (.fault .overflow) := by
  cases h with
  | dark hscan hrecording hcount hdark =>
    rw [load_of_recording hscan hrecording, if_neg (not_not.2 hcount), CorrectionSet.load,
      hdark.loadOne]
    rfl
  | gain hscan hrecording hcount hdark hgain =>
    obtain ⟨image, himage⟩ := hdark.loadOne
    rw [load_of_recording hscan hrecording, if_neg (not_not.2 hcount), CorrectionSet.load, himage,
      ok_bind, hgain.loadOne]
    rfl

theorem exists_acceptable_of_load {d : Dataset}
    (hsize : ∀ content, files.find params.path = .ok (.file content) → content.size < wordLimit)
    (h : load Mrc.read files workers params = .ok d) :
    ∃ content, Acceptable files params content d.header d.geometry := by
  obtain ⟨content, header, geometry, haccept⟩ | ⟨cause, hcause⟩ | hoverflow :=
    opening_cases hsize
  · obtain ⟨e, he, rfl, rfl⟩ := exists_load_of_acceptable workers haccept
    rw [h] at he
    cases he
    exact ⟨content, haccept⟩
  · rw [load_of_refusal hcause] at h
    contradiction
  · rw [load_of_overflow hoverflow] at h
    contradiction

theorem load_eq_refuse_iff {cause : ReadError}
    (hsize : ∀ content, files.find params.path = .ok (.file content) → content.size < wordLimit) :
    load Mrc.read files workers params = Attempt.refuse cause ↔
      OpeningRefusal files params cause := by
  refine ⟨fun h => ?_, load_of_refusal⟩
  obtain ⟨content, header, geometry, haccept⟩ | ⟨first, hfirst⟩ | hoverflow :=
    opening_cases hsize
  · obtain ⟨d, hd, -⟩ := exists_load_of_acceptable workers haccept
    cases hd.symm.trans h
  · cases (load_of_refusal hfirst).symm.trans h
    exact hfirst
  · cases (load_of_overflow hoverflow).symm.trans h

theorem load_eq_fault_iff {f : Fault}
    (hsize : ∀ content, files.find params.path = .ok (.file content) → content.size < wordLimit) :
    load Mrc.read files workers params = .error (.fault f) ↔
      f = .overflow ∧ OpeningOverflow files params := by
  constructor
  · intro h
    obtain ⟨content, header, geometry, haccept⟩ | ⟨cause, hcause⟩ | hoverflow :=
      opening_cases hsize
    · obtain ⟨d, hd, -⟩ := exists_load_of_acceptable workers haccept
      cases hd.symm.trans h
    · cases (load_of_refusal hcause).symm.trans h
    · cases (load_of_overflow hoverflow).symm.trans h
      exact ⟨rfl, hoverflow⟩
  · rintro ⟨rfl, hoverflow⟩
    exact load_of_overflow hoverflow

theorem shape_of_load {d : Dataset} (h : load Mrc.read files workers params = .ok d)
    (haccept : Acceptable files params content d.header d.geometry) :
    d.info.shape = ⟨params.scan ++ [d.geometry.height, d.geometry.width], 2⟩ ∧
      d.info.shape.navigationSize = .ok d.geometry.frameCount := by
  obtain ⟨_, _, hopened⟩ := opened_of_load h
  rw [hopened.info_eq]
  refine ⟨rfl, ?_⟩
  rw [Shape.navigationSize, Shape.navigation_ofParts, ok_bind, haccept.scan.product_eq,
    haccept.frames]

/-- Opening gives a dataset exactly where every condition holds, and the error of the first
one that does not everywhere else; only where all is in order but for a correction that there
can be no room for does it end in a fault, and no file that large is mapped. The shape of a
dataset is its scan with the frames behind it, and the scan and the file set have as many
frames as the file. The size of a file is a word. -/
theorem opening_refuses_at_the_first_condition (files : FileView) (workers : Nat)
    (params : DatasetParams)
    (hsize : ∀ content, files.find params.path = .ok (.file content) → content.size < wordLimit) :
    (files.Addressable → (load Mrc.read files workers params).Faultless) ∧
      (∀ f, load Mrc.read files workers params = .error (.fault f) ↔
        f = .overflow ∧ OpeningOverflow files params) ∧
      ((∃ d, load Mrc.read files workers params = .ok d) ↔
        ∃ content header geometry, Acceptable files params content header geometry) ∧
      (∀ cause, load Mrc.read files workers params = Attempt.refuse cause ↔
        OpeningRefusal files params cause) ∧
      ∀ d, load Mrc.read files workers params = .ok d →
        (∃ content, Acceptable files params content d.header d.geometry) ∧
        d.info.shape = ⟨params.scan ++ [d.geometry.height, d.geometry.width], 2⟩ ∧
        d.info.shape.navigationSize = .ok d.geometry.frameCount ∧
        ∃ s, d.fileSet = .ok s ∧ s.start = 0 ∧ s.stop = d.geometry.frameCount := by
  refine ⟨?_, fun f => load_eq_fault_iff hsize, ⟨?_, ?_⟩, fun cause => load_eq_refuse_iff hsize,
    fun d hd => ?_⟩
  · intro haddressable f hfault
    exact not_openingOverflow haddressable ((load_eq_fault_iff hsize).1 hfault).2
  · rintro ⟨d, hd⟩
    obtain ⟨content, haccept⟩ := exists_acceptable_of_load hsize hd
    exact ⟨content, d.header, d.geometry, haccept⟩
  · rintro ⟨content, header, geometry, haccept⟩
    obtain ⟨d, hd, -⟩ := exists_load_of_acceptable workers haccept
    exact ⟨d, hd⟩
  · obtain ⟨content, haccept⟩ := exists_acceptable_of_load hsize hd
    obtain ⟨hshape, hframes⟩ := shape_of_load hd haccept
    exact ⟨⟨content, haccept⟩, hshape, hframes, _, fileSet_eq d, rfl, rfl⟩

end Dataset

theorem small_recording_opens_with_two_frames :
    (∀ content, SmallRecording.files.find SmallRecording.path = .ok (.file content) →
        content.size < wordLimit) ∧
      SmallRecording.files.Addressable ∧
      (Dataset.load Mrc.read SmallRecording.files 1 ⟨SmallRecording.path, [3]⟩).Faultless ∧
      (∃ content header geometry, Acceptable SmallRecording.files ⟨SmallRecording.path, [2]⟩
        content header geometry) ∧
      SmallRecording.dataset.info.shape.navigationSize = .ok 2 ∧
      Dataset.load Mrc.read SmallRecording.files 1 ⟨SmallRecording.path, [3]⟩ =
        Attempt.refuse (.scan (.frameCount 3 2)) := by
  have hsize : ∀ content, SmallRecording.files.find SmallRecording.path = .ok (.file content) →
      content.size < wordLimit := by
    intro content hfind
    rw [SmallRecording.size_of_find hfind]
    decide
  obtain ⟨-, -, haccept, -, hopened⟩ := Dataset.opening_refuses_at_the_first_condition
    SmallRecording.files 1 ⟨SmallRecording.path, [2]⟩ hsize
  obtain ⟨hfree, -, -, hrefusal, -⟩ := Dataset.opening_refuses_at_the_first_condition
    SmallRecording.files 1 ⟨SmallRecording.path, [3]⟩ hsize
  obtain ⟨⟨content, hsmall⟩, -, hframes, -⟩ := hopened _ SmallRecording.load
  have hscan : CountableScan [3] := ⟨by decide, by decide, by decide⟩
  refine ⟨hsize, SmallRecording.addressable, hfree SmallRecording.addressable,
    haccept.1 ⟨_, SmallRecording.load⟩, hframes, (hrefusal _).2 ?_⟩
  exact @OpeningRefusal.frameCount _ ⟨SmallRecording.path, [3]⟩ content _ _ hscan hsmall.recording
    (by decide)

end DetectorScan
