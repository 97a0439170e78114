import DetectorScan.Proofs.Opening
import DetectorScan.Proofs.PlannedPartitions

/-!
# Parameters found in a file

Detection checks nothing of a header but its magic number, and counts the frames on its own.
What it finds is still enough to open every file that opens for some scan, with the same
frames in the same partitions, and a file for which it finds nothing opens for no scan.
-/

namespace DetectorScan

open Attempt

variable {source : CorrectionSource} {files : FileView} {path : Path} {workers : Nat}
  {scan : List Nat} {d e : Dataset}

/-! ### What detection looks at -/

theorem Header.check_eq_ok_iff {h : Header} :
    h.check = .ok () ↔
      h.magic = recordingMagic ∧ h.compressionFormat = uncompressed ∧
        h.imageFormat = monochrome := by
  unfold check
  split
  · next hmagic => simp [hmagic]
  split
  · next hcompression => simp [hcompression]
  split
  · next hformat => simp [hformat]
  next hmagic hcompression hformat =>
  exact iff_of_true rfl
    ⟨not_not.1 hmagic, not_not.1 hcompression, not_not.1 hformat⟩

theorem Header.faultless_read (files : FileView) (path : Path) :
    (Header.read files path).Faultless :=
  (faultless_ofExcept _).bind fun _ _ => (faultless_decode _).widen

theorem Header.find_of_read {h : Header} (hread : Header.read files path = .ok h) :
    ∃ content, files.find path = .ok (.file content) := by
  obtain ⟨content, hcontent, -⟩ := bind_eq_ok.1 hread
  exact ⟨content, FileView.read_eq_ok.1 (mapError_eq_ok.1 (ofExcept_eq_ok.1 hcontent))⟩

namespace DetectedParams

theorem ofFile?_of_read {header : Header} {content : FileContent}
    (hread : Header.read files path = .ok header)
    (hfind : files.find path = .ok (.file content)) :
    ofFile? files path =
      if header.magic = Header.recordingMagic then
        some ⟨⟨path, [countFrames content.size (imageOffset header.version)
          header.trueImageSize.toNat]⟩⟩
      else none := by
  rw [ofFile?, hread, FileView.read_eq_ok.2 hfind]
  by_cases hmagic : header.magic = Header.recordingMagic
  · simp [hmagic, Except.toOption]
  · simp [hmagic, Except.toOption]

theorem ofFile?_eq_none_iff :
    ofFile? files path = none ↔
      ∀ header, Header.read files path = .ok header → header.magic ≠ Header.recordingMagic := by
  constructor
  · intro hnone header hread hmagic
    obtain ⟨content, hfind⟩ := Header.find_of_read hread
    rw [ofFile?_of_read hread hfind, if_pos hmagic] at hnone
    contradiction
  · intro hall
    cases hread : Header.read files path with
    | error e => rw [ofFile?, hread]; rfl
    | ok header =>
      obtain ⟨content, hfind⟩ := Header.find_of_read hread
      rw [ofFile?_of_read hread hfind, if_neg (hall header hread)]

end DetectedParams

/-! ### The same frames in another scan -/

/-- Two plans hand out the same frames from the same files. -/
structure SamePlan (ps qs : List Partition) : Prop where
  frameSpans : ps.map (·.frameSpan) = qs.map (·.frameSpan)
  files : ps.map (·.files) = qs.map (·.files)

namespace Dataset

/-- Two datasets have the frames of one file, whatever the axes of their scans are. -/
structure SameFrames (d e : Dataset) : Prop where
  path : d.path = e.path
  header : d.header = e.header
  geometry : d.geometry = e.geometry
  corrections : d.corrections = e.corrections
  fileSet : d.fileSet = e.fileSet

/-- The dataset as it comes when its file is opened with the axes of another scan. -/
def rescan (d : Dataset) (scan : List Nat) (workers : Nat) : Dataset :=
  { d with
    info := ⟨.ofParts scan d.geometry.signal, d.geometry.element⟩
    workers
    partitionOverride := none }

theorem sameFrames_rescan (d : Dataset) (scan : List Nat) (workers : Nat) :
    d.SameFrames (d.rescan scan workers) :=
  ⟨rfl, rfl, rfl, rfl, rfl⟩

theorem load_rescan {other : List Nat} {threads : Nat}
    (h : load source files workers ⟨path, scan⟩ = .ok d)
    (hcount : DatasetParams.frameCount ⟨path, other⟩ = .ok d.geometry.frameCount) :
    load source files threads ⟨path, other⟩ = .ok (d.rescan other threads) := by
  obtain ⟨header, content, geometry, corrections, -, hheader, hcheck, hread, hderive,
    hcorrections, rfl⟩ := load_eq_ok.1 h
  exact load_eq_ok.2 ⟨header, content, geometry, corrections, hcount, hheader, hcheck, hread,
    hderive, hcorrections, rfl⟩

theorem SameFrames.symm (h : d.SameFrames e) : e.SameFrames d :=
  ⟨h.path.symm, h.header.symm, h.geometry.symm, h.corrections.symm, h.fileSet.symm⟩

theorem SameFrames.adjust (h : d.SameFrames e) (setting : Setting) :
    d.SameFrames (e.adjust setting) := by
  cases setting with
  | workers count => exact ⟨h.path, h.header, h.geometry, h.corrections, h.fileSet⟩
  | partitions count => exact ⟨h.path, h.header, h.geometry, h.corrections, h.fileSet⟩

theorem SameFrames.foldl_adjust (h : d.SameFrames e) (settings : List Setting) :
    d.SameFrames (settings.foldl Dataset.adjust e) := by
  induction settings generalizing e with
  | nil => exact h
  | cons setting rest ih => exact ih (h.adjust setting)

theorem SameFrames.wholeRun_eq (h : d.SameFrames e) : d.wholeRun = e.wholeRun := by
  rw [wholeRun, wholeRun, h.path, h.geometry]

theorem SameFrames.plannedSpans_eq (h : d.SameFrames e)
    (hcount : d.numPartitions = e.numPartitions) : d.plannedSpans = e.plannedSpans := by
  rw [plannedSpans, plannedSpans, h.geometry, hcount]

theorem SameFrames.samePlan (h : d.SameFrames e) (spans : List Span) :
    SamePlan (spans.map d.partitionOn) (spans.map e.partitionOn) where
  frameSpans := by
    simp only [List.map_map]
    refine List.map_congr_left fun s _ => ?_
    simp only [Function.comp_apply, partitionOn, Partition.frameSpan, h.geometry]
  files := by
    simp only [List.map_map]
    refine List.map_congr_left fun s _ => ?_
    simp only [Function.comp_apply, partitionOn, h.wholeRun_eq]

/-- The same frames in as many partitions are shared out in the same way, or neither plan
comes about. -/
theorem SameFrames.partitions {fileSize : Nat} (h : d.SameFrames e)
    (hfits : d.geometry.Fits fileSize) (hcount : d.numPartitions = e.numPartitions) :
    if d.TooManyPartitions then
      d.partitions = .error (.fault .overflow) ∧ e.partitions = .error (.fault .overflow)
    else ∃ ps qs, d.partitions = .ok ps ∧ e.partitions = .ok qs ∧ SamePlan ps qs := by
  have hsize : d.TooManyPartitions ↔ e.TooManyPartitions := by
    rw [TooManyPartitions, TooManyPartitions, hcount]
  have hleft := partitions_eq hfits
  have hright := partitions_eq (h.geometry ▸ hfits)
  split
  · next hlarge =>
    rw [if_pos hlarge] at hleft
    rw [if_pos (hsize.1 hlarge)] at hright
    exact ⟨hleft, hright⟩
  · next hsmall =>
    rw [if_neg hsmall] at hleft
    rw [if_neg (mt hsize.2 hsmall), ← h.plannedSpans_eq hcount] at hright
    exact ⟨_, _, hleft, hright, h.samePlan d.plannedSpans⟩

/-! ### Detection and opening -/

theorem detected_of_load (h : load source files workers ⟨path, scan⟩ = .ok d) :
    DetectedParams.ofFile? files path = some ⟨⟨path, [d.geometry.frameCount]⟩⟩ := by
  obtain ⟨header, content, geometry, corrections, -, hheader, hcheck, hread, hderive, -, rfl⟩ :=
    load_eq_ok.1 h
  have hmagic := (Header.check_eq_ok_iff.1 hcheck).1
  have hderived := Geometry.derivedFrom_of_derive hderive
  rw [DetectedParams.ofFile?_of_read hheader (FileView.read_eq_ok.1 hread), if_pos hmagic,
    hderived.frameCount_eq, hderived.imageOffset_eq, hderived.recordBytes_eq]

theorem frameCount_single_of_load (h : load source files workers ⟨path, scan⟩ = .ok d) :
    volume scan = d.geometry.frameCount ∧
      DatasetParams.frameCount ⟨path, [d.geometry.frameCount]⟩ = .ok d.geometry.frameCount := by
  obtain ⟨_, _, hopened⟩ := opened_of_load h
  obtain ⟨hscan, hframes⟩ := countableScan_of_frameCount hopened.scan_eq
  -- A file without a whole record opens for no scan, so the one axis is not empty.
  have hpos := hopened.frameCount_pos
  have hvolume : volume [d.geometry.frameCount] = d.geometry.frameCount := Nat.mul_one _
  have hsingle : CountableScan [d.geometry.frameCount] := by
    refine ⟨List.cons_ne_nil _ _, ?_, ?_⟩
    · simpa using hpos
    · rw [hvolume]
      exact hframes ▸ hscan.lt
  refine ⟨hframes, ?_⟩
  rw [hsingle.frameCount_eq, hvolume]

theorem load_of_undetected (hnone : DetectedParams.ofFile? files path = none) (workers : Nat)
    (scan : List Nat) : ∃ cause, load source files workers ⟨path, scan⟩ = refuse cause := by
  -- Opening looks at the scan before the header, and in the header at the magic number first.
  cases hcount : DatasetParams.frameCount ⟨path, scan⟩ with
  | error cause =>
    refine ⟨.config cause, ?_⟩
    rw [load, hcount]
    rfl
  | ok count =>
    obtain ⟨header, hheader⟩ | ⟨cause, hcause⟩ := (Header.faultless_read files path).ok_or_refuse
    · have hmagic := DetectedParams.ofFile?_eq_none_iff.1 hnone header hheader
      have hcheck : header.check = .error (.invalid (.magic header.magic.toNat)) := if_pos hmagic
      refine ⟨.recording (.invalid (.magic header.magic.toNat)), ?_⟩
      rw [load, hcount, hheader]
      simp only [mapError_ok, ofExcept_ok, ok_bind, widen, hcheck]
      rfl
    · refine ⟨.recording cause, ?_⟩
      rw [load, hcount, hcause]
      rfl

/-- A file that opens for some scan is found to have as many frames as that scan, on one axis,
and opens for these parameters too: with the same frames, and with the same partitions where
as many are asked for. A file for which nothing is found opens for no scan. -/
theorem detected_parameters_open_the_same_frames (source : CorrectionSource) (files : FileView)
    (path : Path) :
    (∀ (workers : Nat) (scan : List Nat) (d : Dataset),
      load source files workers ⟨path, scan⟩ = .ok d →
      volume scan = d.geometry.frameCount ∧
      DetectedParams.ofFile? files path = some ⟨⟨path, [d.geometry.frameCount]⟩⟩ ∧
      ∀ threads : Nat, ∃ e, load source files threads ⟨path, [d.geometry.frameCount]⟩ = .ok e ∧
        d.SameFrames e ∧
        ∀ settings others : List Setting,
          let d' := settings.foldl Dataset.adjust d
          let e' := others.foldl Dataset.adjust e
          d'.numPartitions = e'.numPartitions →
          if d'.TooManyPartitions then
            d'.partitions = .error (.fault .overflow) ∧ e'.partitions = .error (.fault .overflow)
          else ∃ ps qs, d'.partitions = .ok ps ∧ e'.partitions = .ok qs ∧ SamePlan ps qs) ∧
    (DetectedParams.ofFile? files path = none → ∀ (workers : Nat) (scan : List Nat),
      ∃ cause, load source files workers ⟨path, scan⟩ = refuse cause) := by
  refine ⟨?_, load_of_undetected⟩
  intro workers scan d hload
  obtain ⟨hframes, hsingle⟩ := frameCount_single_of_load hload
  refine ⟨hframes, detected_of_load hload, fun threads => ?_⟩
  have hsame := d.sameFrames_rescan [d.geometry.frameCount] threads
  refine ⟨_, load_rescan hload hsingle, hsame, ?_⟩
  intro settings others d' e' hcount
  obtain ⟨-, fileSize, hfits⟩ := adjusted_of_load hload settings
  exact ((hsame.foldl_adjust others).symm.foldl_adjust settings).symm.partitions hfits hcount

end Dataset

/-- The file at every path has a header whose name cannot be read. -/
def brokenFiles : FileView where
  find _ := .ok (.file (.ofBytes Header.brokenName))

theorem ofFile?_brokenFiles (path : Path) : DetectedParams.ofFile? brokenFiles path = none := by
  have hlong : Header.size ≤ Header.brokenName.length := by decide +kernel
  have hname : ¬TextBlock.Readable (Header.nameBlock Header.brokenName) := by decide
  refine DetectedParams.ofFile?_eq_none_iff.2 fun header hread => ?_
  have hfind : brokenFiles.find path = .ok (.file (.ofBytes Header.brokenName)) := rfl
  rw [Header.read_eq_decode hfind, widen_eq_ok, FileContent.toBytes_ofBytes,
    Header.decode_of_refusal (.name hlong hname)] at hread
  cases hread

theorem small_recording_opens_with_detected_parameters :
    Dataset.load Mrc.read SmallRecording.files 1 ⟨SmallRecording.path, [2, 1]⟩ =
        .ok (SmallRecording.dataset.rescan [2, 1] 1) ∧
      DetectedParams.ofFile? SmallRecording.files SmallRecording.path =
        some ⟨⟨SmallRecording.path, [2]⟩⟩ ∧
      (∃ e ps qs, Dataset.load Mrc.read SmallRecording.files 4 ⟨SmallRecording.path, [2]⟩ = .ok e ∧
        ((SmallRecording.dataset.rescan [2, 1] 1).withPartitionCount 2).partitions = .ok ps ∧
        (e.withPartitionCount 2).partitions = .ok qs ∧ SamePlan ps qs) ∧
      DetectedParams.ofFile? brokenFiles SmallRecording.path = none ∧
      ∃ cause, Dataset.load Mrc.read brokenFiles 1 ⟨SmallRecording.path, [2]⟩ = refuse cause := by
  have hraster : Dataset.load Mrc.read SmallRecording.files 1 ⟨SmallRecording.path, [2, 1]⟩ =
      .ok (SmallRecording.dataset.rescan [2, 1] 1) :=
    Dataset.load_rescan SmallRecording.load rfl
  have hnone := ofFile?_brokenFiles SmallRecording.path
  obtain ⟨hopens, -⟩ := Dataset.detected_parameters_open_the_same_frames
    Mrc.read SmallRecording.files SmallRecording.path
  obtain ⟨-, hrefused⟩ := Dataset.detected_parameters_open_the_same_frames
    Mrc.read brokenFiles SmallRecording.path
  obtain ⟨-, hdetected, hagain⟩ := hopens 1 [2, 1] _ hraster
  obtain ⟨e, he, -, hplans⟩ := hagain 4
  have hplan := hplans [.partitions 2] [.partitions 2] rfl
  rw [if_neg (by decide)] at hplan
  obtain ⟨ps, qs, hps, hqs, hsame⟩ := hplan
  exact ⟨hraster, hdetected, ⟨e, ps, qs, he, hps, hqs, hsame⟩, hnone, hrefused hnone 1 [2]⟩

end DetectorScan
