import DetectorScan.Proofs.Opening
import Mathlib.Algebra.Group.Nat.Defs

/-!
# Every frame is handed on once

Whatever the partitions of a dataset and the budgets of their tiles, pulling the partitions
to their ends in order hands on the frames of the file once and in order, each with the
bytes of its pixels, unless the file cannot be mapped. Only so many partitions that there
can be no room for them do not come about.
-/

namespace DetectorScan

open FileDescriptor TileStream

/-! ### The stream of a partition -/

namespace Dataset

variable {d : Dataset} {fileSize : Nat} {files : FileView} {content : FileContent}
  {s : Span} {budget : Nat}

def runOn (d : Dataset) (s : Span) : FileDescriptor :=
  { d.wholeRun with start := s.start, stop := s.stop }

theorem sized_runOn (h : d.geometry.Fits fileSize) (hs : s.stop ≤ d.geometry.frameCount) :
    (d.runOn s).Sized d.geometry.sizes :=
  (sized_wholeRun h).of_sameLayout ⟨Path.Same.refl _, rfl, rfl, rfl, rfl, rfl, rfl⟩ hs

theorem files_partitionOn (d : Dataset) (hs : s.stop ≤ d.geometry.frameCount) :
    (d.partitionOn s).files.files =
      if s.start < s.stop then [d.runOn s] else [] := by
  simp only [partitionOn, FileSet.clipAll, runOn, wholeRun, List.filter_cons, List.filter_nil,
    Nat.zero_max, Nat.min_eq_right hs, decide_eq_true_eq]
  split
  · simp only [List.map_cons, List.map_nil, clip, Nat.max_zero, Nat.min_eq_left hs]
  · rfl

theorem tiles_partitionOn (d : Dataset) (budget : Nat) (hs : s.stop ≤ d.geometry.frameCount) :
    (d.partitionOn s).tiles budget =
      idle budget (if s.start < s.stop then [d.runOn s] else []) := by
  rw [Partition.tiles, ofFileSet, files_partitionOn d hs]
  rfl

theorem held_wholeRun (h : d.geometry.Fits fileSize) (hs : s.stop ≤ d.geometry.frameCount)
    (hfit : s.stop ≤ d.wholeIn content.size) :
    d.wholeRun.Held d.geometry.sizes content s :=
  ⟨sized_wholeRun h, Nat.zero_le _, hs, hfit.trans (limit_wholeRun h _).ge⟩

theorem held_of_mem_cuts (h : d.geometry.Fits fileSize) (hle : s.start ≤ s.stop)
    (hs : s.stop ≤ d.geometry.frameCount) {t : Span}
    (ht : t ∈ cuts (framesPerTile budget d.geometry.frameBytes) s.start s.stop)
    (hfit : t.stop ≤ d.wholeIn content.size) :
    d.wholeRun.Held d.geometry.sizes content t ∧ t.start < t.stop := by
  have hcuts := contiguous_cuts (framesPerTile_pos budget d.geometry.frameBytes) hle
  exact ⟨held_wholeRun h ((hcuts.bounds ht).2.2.trans hs) hfit, (mem_cuts ht).1⟩

theorem held_of_mem_takeWhile_cuts (budget : Nat) (h : d.geometry.Fits fileSize)
    (hle : s.start ≤ s.stop) (hs : s.stop ≤ d.geometry.frameCount) {t : Span}
    (ht : t ∈ (cuts (framesPerTile budget d.geometry.frameBytes) s.start s.stop).takeWhile
      fun t => t.stop ≤ d.wholeIn content.size) :
    d.wholeRun.Held d.geometry.sizes content t ∧ t.start < t.stop := by
  have hfit : t.stop ≤ d.wholeIn content.size := by simpa using List.mem_takeWhile_imp ht
  exact held_of_mem_cuts h hle hs ((List.takeWhile_prefix _).subset ht) hfit

theorem deliver_partitionOn (h : d.geometry.Fits fileSize) (hle : s.start ≤ s.stop)
    (hs : s.stop ≤ d.geometry.frameCount) (hc : files.map d.path = .ok content)
    (hfit : s.start = s.stop ∨ s.stop ≤ d.wholeIn content.size) :
    ((d.partitionOn s).tiles budget).deliver files =
      ⟨(cuts (framesPerTile budget d.geometry.frameBytes) s.start s.stop).map
          (d.wholeRun.tileOn d.geometry.sizes content), .finished, idle budget []⟩ := by
  rw [tiles_partitionOn d budget hs]
  have hfit' : s.start = s.stop ∨ s.stop ≤ d.wholeRun.limit d.geometry.sizes content.size := by
    rwa [limit_wholeRun h]
  by_cases hlt : s.start < s.stop
  · rw [if_pos hlt, deliver_cons_of_whole (sized_runOn h hs) ⟨Nat.zero_le _, hle⟩ hc hfit',
      deliver_idle_nil]
    simp only [Delivery.after, List.append_nil]
    rfl
  · rw [if_neg hlt, deliver_idle_nil, cuts_of_le _ (by omega)]
    rfl

theorem deliver_partitionOn_of_truncated (h : d.geometry.Fits fileSize)
    (hlt : s.start < s.stop) (hs : s.stop ≤ d.geometry.frameCount)
    (hc : files.map d.path = .ok content)
    (hfit : d.wholeIn content.size < s.stop) :
    ((d.partitionOn s).tiles budget).deliver files =
      ⟨((cuts (framesPerTile budget d.geometry.frameBytes) s.start s.stop).takeWhile
          fun t => t.stop ≤ d.wholeIn content.size).map
          (d.wholeRun.tileOn d.geometry.sizes content),
        .failed (.truncated d.path (max s.start (d.wholeIn content.size))),
        ⟨[], none, budget, true⟩⟩ := by
  have hlimit := limit_wholeRun h content.size
  rw [tiles_partitionOn d budget hs, if_pos hlt,
    deliver_cons_of_truncated (sized_runOn h hs) ⟨Nat.zero_le _, hlt.le⟩ hc hlt
      (hlimit.trans_lt hfit), ← hlimit]
  rfl

theorem deliver_partitionOn_of_le (hle : s.stop ≤ s.start) (hs : s.stop ≤ d.geometry.frameCount) :
    ((d.partitionOn s).tiles budget).deliver files = ⟨[], .finished, idle budget []⟩ := by
  rw [tiles_partitionOn d budget hs, if_neg (Nat.not_lt.2 hle), deliver_idle_nil]

theorem next_partitionOn_of_error {e : StorageError} (budget : Nat)
    (h : d.geometry.Fits fileSize) (hlt : s.start < s.stop) (hs : s.stop ≤ d.geometry.frameCount)
    (hmap : files.map d.path = .error e) :
    ((d.partitionOn s).tiles budget).next files =
      .failed (.storage e) ⟨[], none, budget, true⟩ := by
  have hpath : files.map (d.runOn s).path = .error e := hmap
  rw [tiles_partitionOn d budget hs, if_pos hlt]
  simp only [idle, next, openNext, OpenFile.ofDescriptor, (sized_runOn h hs).frameBytes_eq, hpath,
    Attempt.liftM_ok, ok_bind, mapError_error, Attempt.ofExcept_error]
  rfl

end Dataset

/-! ### Pulling partitions -/

/-- The frames of a stream that is pulled to its end. -/
def TileStream.frames (s : TileStream) (files : FileView) :
    Attempt ReadError (List (Nat × Option Bytes)) := do
  let delivery := s.deliver files
  let numbered ← liftM (delivery.tiles.mapM Tile.numbered)
  match delivery.ending with
  | .finished => return numbered.flatten
  | .failed cause => Attempt.refuse cause
  | .fault f => .error (.fault f)

/-- The frames of partitions that are pulled one after the other, each with a budget. -/
def pullAll (files : FileView) :
    List (Partition × Nat) → Attempt ReadError (List (Nat × Option Bytes))
  | [] => return []
  | (partition, budget) :: rest => do
    let frames ← (partition.tiles budget).frames files
    return frames ++ (← pullAll files rest)

/-- The bytes of a file where the pixels of a frame lie. -/
def Geometry.payloadIn (g : Geometry) (content : FileContent) (frame : Nat) :
    Checked Bytes :=
  let start := g.imageOffset + frame * g.recordBytes
  content.range start (start + g.height * g.width * g.element.size)

namespace Dataset

variable {d : Dataset} {fileSize : Nat} {files : FileView} {content : FileContent}

def storedFrames (d : Dataset) (content : FileContent) (s : Span) :
    List (Nat × Option Bytes) :=
  s.frames.map fun frame => (frame, some (d.wholeRun.stored d.geometry.sizes content frame))

theorem payloadIn_eq (h : d.geometry.Fits content.size) {frame : Nat}
    (hf : frame < d.geometry.frameCount) :
    d.geometry.payloadIn content frame =
      .ok (d.wholeRun.stored d.geometry.sizes content frame) := by
  have hheld := held_wholeRun (s := ⟨0, d.geometry.frameCount⟩) h le_rfl (wholeIn_eq h).ge
  have hstored := hheld.range_stored (Span.mem_frames.2 ⟨Nat.zero_le _, hf⟩)
  simp only [FileDescriptor.recordStart, wholeRun, Geometry.sizes, Nat.sub_zero, Nat.add_zero]
    at hstored
  rw [Geometry.payloadIn, ← h.frameBytes_eq, hstored]
  rfl

theorem frames_partitionOn {s : Span} (budget : Nat) (h : d.geometry.Fits content.size)
    (hc : files.map d.path = .ok content) (hle : s.start ≤ s.stop)
    (hs : s.stop ≤ d.geometry.frameCount) :
    ((d.partitionOn s).tiles budget).frames files = .ok (d.storedFrames content s) := by
  have hwhole := wholeIn_eq h
  have hcuts := contiguous_cuts (framesPerTile_pos budget d.geometry.frameBytes) hle
  have hnumbered : ((cuts (framesPerTile budget d.geometry.frameBytes) s.start s.stop).map
      (d.wholeRun.tileOn d.geometry.sizes content)).mapM Tile.numbered =
        .ok ((cuts (framesPerTile budget d.geometry.frameBytes) s.start s.stop).map
          (d.storedFrames content)) := by
    rw [List.mapM_map]
    refine mapM_eq_ok fun t ht => ?_
    have hstop := (hcuts.bounds ht).2.2
    exact (held_of_mem_cuts h hle hs ht (by omega)).1.numbered_tileOn
  have hflat : ((cuts (framesPerTile budget d.geometry.frameBytes) s.start s.stop).map
      (d.storedFrames content)).flatten = d.storedFrames content s := by
    rw [storedFrames, ← hcuts.flatMap_frames, List.map_flatMap]
    rfl
  rw [TileStream.frames, deliver_partitionOn h hle hs hc (.inr (by omega))]
  simp only [hnumbered, Attempt.liftM_ok, ok_bind, hflat]
  rfl

theorem pullAll_partitions (h : d.geometry.Fits content.size)
    (hc : files.map d.path = .ok content) {start stop : Nat} {spans : List Span}
    (hspans : Contiguous start spans stop) (hs : stop ≤ d.geometry.frameCount)
    {budgets : List Nat} (hb : budgets.length = spans.length) :
    pullAll files ((spans.map d.partitionOn).zip budgets) =
      .ok (d.storedFrames content ⟨start, stop⟩) := by
  -- each run goes on where the one before it ends
  induction spans generalizing start budgets with
  | nil =>
    cases hspans
    simp [pullAll, storedFrames, Span.frames, pure, Except.pure]
  | cons s rest ih =>
    obtain _ | ⟨budget, budgets⟩ := budgets
    · contradiction
    obtain ⟨rfl, hle, hrest⟩ := hspans
    have hlast := hrest.le
    have hhead := frames_partitionOn budget h hc hle (hlast.trans hs)
    have htail := ih hrest (Nat.succ.inj hb)
    simp only [List.map_cons, List.zip_cons_cons, pullAll, hhead, htail, ok_bind]
    rw [storedFrames, storedFrames, storedFrames, ← Span.frames_append hle hlast, List.map_append]
    rfl

theorem frames_partitionOn_of_error {s : Span} {e : StorageError} (budget : Nat)
    (h : d.geometry.Fits fileSize) (hlt : s.start < s.stop) (hs : s.stop ≤ d.geometry.frameCount)
    (hmap : files.map d.path = .error e) :
    ((d.partitionOn s).tiles budget).frames files = Attempt.refuse (.storage e) := by
  rw [TileStream.frames, deliver_of_failed (next_partitionOn_of_error budget h hlt hs hmap)]
  rfl

theorem pullAll_partitions_of_error {e : StorageError} (h : d.geometry.Fits fileSize)
    (hmap : files.map d.path = .error e) {start stop : Nat} {spans : List Span}
    (hspans : Contiguous start spans stop) (hlt : start < stop)
    (hs : stop ≤ d.geometry.frameCount) {budgets : List Nat}
    (hb : budgets.length = spans.length) :
    pullAll files ((spans.map d.partitionOn).zip budgets) = Attempt.refuse (.storage e) := by
  -- partitions without frames open no file, so the first that has any meets the error
  induction spans generalizing start budgets with
  | nil => exact absurd hspans (Nat.ne_of_lt hlt)
  | cons s rest ih =>
    obtain _ | ⟨budget, budgets⟩ := budgets
    · contradiction
    obtain ⟨rfl, hle, hrest⟩ := hspans
    have hlast := hrest.le.trans hs
    simp only [List.map_cons, List.zip_cons_cons, pullAll]
    by_cases hframes : s.start < s.stop
    · rw [frames_partitionOn_of_error budget h hframes hlast hmap]
      rfl
    · have hnone : ((d.partitionOn s).tiles budget).frames files = .ok [] := by
        rw [TileStream.frames, deliver_partitionOn_of_le (Nat.le_of_not_lt hframes) hlast]
        rfl
      rw [hnone, ok_bind, ih hrest (by omega) (Nat.succ.inj hb)]
      rfl

end Dataset

/-- The partitions of a dataset hand on every frame of its file once and in order,
however many there are and whatever the budgets of their tiles. Without room for them there
are none, and a file that cannot be mapped hands on nothing. -/
theorem every_frame_is_handed_on_once {source : CorrectionSource} {files : FileView}
    {workers : Nat} {params : DatasetParams} {d : Dataset}
    (h : Dataset.load source files workers params = .ok d) :
    ∃ content, files.find params.path = .ok (.file content) ∧
      ∃ payload : Nat → Bytes,
        (∀ frame < d.geometry.frameCount,
          d.geometry.payloadIn content frame = .ok (payload frame)) ∧
        ∀ workers override,
          let e := d.configured workers override
          if e.TooManyPartitions then e.partitions = .error (.fault .overflow)
          else ∃ partitions, e.partitions = .ok partitions ∧
            partitions.length = max e.numPartitions 1 ∧
            ∀ budgets : List Nat, budgets.length = partitions.length →
              pullAll files (partitions.zip budgets) =
                match files.unmapped params.path with
                | some cause => Attempt.refuse (.storage cause)
                | none => .ok ((List.range d.geometry.frameCount).map fun frame =>
                    (frame, some (payload frame))) := by
  obtain ⟨content, hfind, hopened⟩ := Dataset.opened_of_load h
  have hfits := hopened.fits
  refine ⟨content, hfind, d.wholeRun.stored d.geometry.sizes content,
    fun frame hf => Dataset.payloadIn_eq hfits hf, fun workers override => ?_⟩
  have hother := hopened.configured workers override
  have hparts := Dataset.partitions_eq hother.fits
  by_cases hmany : (d.configured workers override).TooManyPartitions
  · rw [if_pos hmany] at hparts ⊢
    exact hparts
  · rw [if_neg hmany] at hparts ⊢
    refine ⟨_, hparts, ?_, fun budgets hb => ?_⟩
    · rw [List.length_map, Dataset.length_plannedSpans]
    · rw [List.length_map] at hb
      have hplan := Dataset.contiguous_plannedSpans (d.configured workers override)
      cases hunmapped : files.unmapped params.path with
      | some cause =>
        have hmap := FileView.map_of_unmapped hfind hunmapped
        rw [← hother.path_eq] at hmap
        exact Dataset.pullAll_partitions_of_error hother.fits hmap hplan hother.frameCount_pos
          le_rfl hb
      | none =>
        have hmap := FileView.map_eq_ok.2 ⟨hfind, hunmapped⟩
        rw [← hother.path_eq] at hmap
        rw [Dataset.pullAll_partitions hother.fits hmap hplan le_rfl hb, ← Span.frames_zero]
        rfl

theorem small_recording_is_handed_on_in_thirds :
    Dataset.load Mrc.read SmallRecording.files 1 ⟨SmallRecording.path, [2]⟩ =
        .ok SmallRecording.dataset ∧
      ∃ partitions, (SmallRecording.dataset.configured 1 (some 3)).partitions = .ok partitions ∧
        pullAll SmallRecording.files (partitions.zip [0, 4, 100]) =
          .ok [(0, some [1, 7, 200, 3]), (1, some [2, 7, 100, 0])] := by
  refine ⟨SmallRecording.load, ?_⟩
  obtain ⟨content, hfind, payload, hpayload, hall⟩ :=
    every_frame_is_handed_on_once SmallRecording.load
  cases hfind
  have hfits : ¬ (SmallRecording.dataset.configured 1 (some 3)).TooManyPartitions := by decide
  have hsome := hall 1 (some 3)
  simp only [if_neg hfits] at hsome
  obtain ⟨partitions, hparts, hlength, hpull⟩ := hsome
  have hbytes : ∀ frame < 2,
      SmallRecording.dataset.geometry.payloadIn SmallRecording.content frame =
        .ok (([[1, 7, 200, 3], [2, 7, 100, 0]] : List Bytes).getD frame []) := by
    simp only [Geometry.payloadIn, FileContent.range_eq, SmallRecording.content,
      FileContent.toBytes_ofBytes]
    decide +kernel
  have hfirst := (hpayload 0 (by decide)).symm.trans (hbytes 0 (by decide))
  have hsecond := (hpayload 1 (by decide)).symm.trans (hbytes 1 (by decide))
  refine ⟨partitions, hparts, (hpull [0, 4, 100] hlength.symm).trans ?_⟩
  show Except.ok [(0, some (payload 0)), (1, some (payload 1))] = _
  rw [Except.ok.inj hfirst, Except.ok.inj hsecond]
  rfl

theorem too_many_partitions_of_small_recording :
    Dataset.load Mrc.read SmallRecording.files 1 ⟨SmallRecording.path, [2]⟩ =
        .ok SmallRecording.dataset ∧
      ¬ ∃ partitions,
        (SmallRecording.dataset.withPartitionCount (2 ^ 62)).partitions = .ok partitions := by
  refine ⟨SmallRecording.load, fun ⟨partitions, hparts⟩ => ?_⟩
  obtain ⟨_, _, hopened⟩ := Dataset.opened_of_load SmallRecording.load
  rw [Dataset.configured_withPartitionCount,
    Dataset.partitions_eq (hopened.configured ..).fits, if_pos (by decide)] at hparts
  contradiction

end DetectorScan
