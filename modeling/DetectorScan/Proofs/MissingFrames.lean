import DetectorScan.Proofs.WholeFiles
import Mathlib.Data.List.TakeWhile

/-!
# Streams over files that end too early

Where every file of a set is there, but not the records of all frames, a stream ends at the
first frame that has none, whatever its budget. The budget only decides how many of the frames
in front of it are still delivered: whole tiles, and less than one tile is held back.
-/

namespace DetectorScan

/-- The runs that end within a limit reach close to it: the next run is the one that passes
it. -/
theorem contiguous_takeWhile_cuts {size : Nat} (hsize : 0 < size) {start stop limit : Nat}
    (hstart : start < stop) (hlimit : limit < stop) :
    ∃ reached, Contiguous start ((cuts size start stop).takeWhile fun s => s.stop ≤ limit)
        reached ∧
      reached ≤ max start limit ∧ max start limit < reached + size := by
  fun_induction cuts size start stop with
  | case1 start hlt ih =>
    by_cases hrun : start + min size (stop - start) ≤ limit
    · obtain ⟨reached, hruns, hle, hnext⟩ := ih (by omega)
      refine ⟨reached, ?_, by omega, by omega⟩
      rw [List.takeWhile_cons_of_pos (by simpa using hrun)]
      exact ⟨rfl, Nat.le_add_right .., hruns⟩
    · refine ⟨start, ?_, by omega, by omega⟩
      rw [List.takeWhile_cons_of_neg (by simpa using hrun)]
      rfl
  | case2 start hempty => omega

namespace FileDescriptor

/-- There is a file at the path of a descriptor. -/
def FileFound (d : FileDescriptor) (files : FileView) : Prop :=
  ∃ content, files.map d.path = .ok content

/-- The whole record of a frame lies inside the file of its descriptor. -/
def RecordInside (d : FileDescriptor) (files : FileView) (frame : Nat) : Prop :=
  ∃ content offset stride, files.map d.path = .ok content ∧
    d.recordOffset frame = .ok offset ∧ d.stride = .ok stride ∧ offset + stride ≤ content.size

variable {d : FileDescriptor} {m : FrameSizes} {files : FileView} {content : FileContent}
  {frame : Nat}

theorem Sized.recordInside_iff (hm : d.Sized m) (hv : d.Valid)
    (hc : files.map d.path = .ok content) (hf : d.Holds frame) :
    d.RecordInside files frame ↔ frame < d.limit m content.size := by
  have hfile : d.fileStart ≤ frame := hv.1.trans hf.1
  rw [hm.lt_limit_iff content.size hfile, recordStart_succ hfile]
  have hoffset := hm.recordOffset_eq hfile hf.2.le
  constructor
  · rintro ⟨other, offset, stride, hother, hoffset', hstride, hle⟩
    cases hc.symm.trans hother
    cases hoffset.symm.trans hoffset'
    cases hm.stride_eq.symm.trans hstride
    exact hle
  · intro hle
    exact ⟨content, _, _, hc, hoffset, hm.stride_eq, hle⟩

theorem whole_iff :
    d.Whole files ↔ d.FileFound files ∧ ∀ frame, d.Holds frame → d.RecordInside files frame := by
  constructor
  · rintro ⟨content, hc, hall⟩
    refine ⟨⟨content, hc⟩, fun frame hf => ?_⟩
    obtain ⟨offset, stride, hoffset, hstride, hle⟩ := hall frame hf
    exact ⟨content, offset, stride, hc, hoffset, hstride, hle⟩
  · rintro ⟨⟨content, hc⟩, hall⟩
    refine ⟨content, hc, fun frame hf => ?_⟩
    obtain ⟨other, offset, stride, hother, hoffset, hstride, hle⟩ := hall frame hf
    cases hc.symm.trans hother
    exact ⟨offset, stride, hoffset, hstride, hle⟩

theorem Sized.whole_of_fits (hm : d.Sized m) (hv : d.Valid)
    (hc : files.map d.path = .ok content)
    (hfit : d.start = d.stop ∨ d.stop ≤ d.limit m content.size) : d.Whole files := by
  refine whole_iff.2 ⟨⟨content, hc⟩, fun frame hf => ?_⟩
  rw [hm.recordInside_iff hv hc hf]
  obtain ⟨hlow, hhigh⟩ := hf
  omega

theorem Sized.tileOf_tilesWithin (hm : d.Sized m) (hv : d.Valid)
    (hc : files.map d.path = .ok content) (budget : Nat) :
    List.Forall₂ (d.TileOf files budget) (d.tilesWithin m content budget)
      ((cuts (framesPerTile budget m.frameBytes) d.start d.stop).takeWhile
        fun s => s.stop ≤ d.limit m content.size) := by
  refine List.forall₂_map_left_iff.2 (List.forall₂_same.2 ?_)
  intro s hs
  have hfit : s.stop ≤ d.limit m content.size := by simpa using List.mem_takeWhile_imp hs
  exact hm.tileOf_of_mem_cuts hv hc ((List.takeWhile_prefix _).subset hs) hfit

/-- The first frame of some descriptors that has no record. -/
structure FirstMissing (pending : List FileDescriptor) (files : FileView) (d : FileDescriptor)
    (frame : Nat) : Prop where
  mem : d ∈ pending
  holds : d.Holds frame
  missing : ¬d.RecordInside files frame
  before : ∀ e ∈ pending, ∀ other < frame, e.Holds other → e.RecordInside files other

theorem FirstMissing.cons {pending : List FileDescriptor} {e : FileDescriptor}
    (h : FirstMissing pending files d frame) (hwhole : e.Whole files) :
    FirstMissing (e :: pending) files d frame where
  mem := List.mem_cons_of_mem _ h.mem
  holds := h.holds
  missing := h.missing
  before := by
    rw [List.forall_mem_cons]
    exact ⟨fun other _ => (whole_iff.1 hwhole).2 other, h.before⟩

end FileDescriptor

namespace TileStream

open FileDescriptor FileSet

variable {files : FileView} {start stop : Nat} {pending : List FileDescriptor}

/-- A delivery that ended with the error for a frame of a descriptor. Its tiles hold the frames
in front up to one that is less than a tile away, and nothing comes behind the error. -/
def Delivery.StopsAt (delivery : Delivery) (pending : List FileDescriptor) (files : FileView)
    (budget start : Nat) (d : FileDescriptor) (frame : Nat) : Prop :=
  ∃ tiles spans reached rest frameBytes,
    delivery = ⟨tiles, .failed (.truncated d.path frame), rest⟩ ∧
    rest.next files = .finished rest ∧
    Contiguous start spans reached ∧
    List.Forall₂ (fun t s => ∃ e ∈ pending, e.TileOf files budget t s) tiles spans ∧
    d.frameBytes = .ok frameBytes ∧
    reached ≤ frame ∧ frame < reached + max 1 (budget / max 1 frameBytes)

theorem stopsAt_cons_of_whole {e d : FileDescriptor} {m : FrameSizes} {content : FileContent}
    {budget frame : Nat} (hm : e.Sized m) (hv : e.Valid)
    (hc : files.map e.path = .ok content)
    (hfit : e.start = e.stop ∨ e.stop ≤ e.limit m content.size)
    (h : ((idle budget pending).deliver files).StopsAt pending files budget e.stop d frame) :
    ((idle budget (e :: pending)).deliver files).StopsAt (e :: pending) files budget e.start
      d frame := by
  obtain ⟨tiles, spans, reached, rest, frameBytes, hdeliver, hrest, hspans, htiles, hframe⟩ := h
  refine ⟨e.tiles m content budget ++ tiles,
    cuts (framesPerTile budget m.frameBytes) e.start e.stop ++ spans, reached, rest, frameBytes,
    ?_, hrest, ?_, ?_, hframe⟩
  · rw [deliver_cons_of_whole hm hv hc hfit, hdeliver]
    rfl
  · exact (contiguous_cuts (framesPerTile_pos ..) hv.2).append hspans
  · refine List.rel_append ((hm.tileOf_tiles hv hc hfit budget).imp ?_) (htiles.imp ?_)
    · intro t s ht
      exact ⟨e, List.mem_cons_self .., ht⟩
    · rintro t s ⟨e', he, ht⟩
      exact ⟨e', List.mem_cons_of_mem _ he, ht⟩

theorem stopsAt_cons_of_truncated {d : FileDescriptor} {m : FrameSizes} {content : FileContent}
    (hm : d.Sized m) (hv : d.Valid) (hc : files.map d.path = .ok content)
    (hlt : d.start < d.stop) (hfit : d.limit m content.size < d.stop) (budget : Nat) :
    ((idle budget (d :: pending)).deliver files).StopsAt (d :: pending) files budget d.start
      d (max d.start (d.limit m content.size)) := by
  obtain ⟨reached, hspans, hle, hnext⟩ :=
    contiguous_takeWhile_cuts (framesPerTile_pos budget m.frameBytes) hlt hfit
  refine ⟨_, _, reached, _, m.frameBytes, deliver_cons_of_truncated hm hv hc hlt hfit,
    next_of_failed rfl, hspans, ?_, hm.frameBytes_eq, hle, ?_⟩
  · refine (hm.tileOf_tilesWithin hv hc budget).imp ?_
    intro t s ht
    exact ⟨d, List.mem_cons_self .., ht⟩
  · rwa [framesPerTile, Nat.max_comm _ 1, Nat.max_comm _ 1] at hnext

theorem whole_or_stopsAt (h : Chain start pending stop) (hm : ∀ d ∈ pending, d.Measured)
    (hf : ∀ d ∈ pending, d.FileFound files) :
    (∀ d ∈ pending, d.Whole files) ∨
      ∃ d frame, FirstMissing pending files d frame ∧ ∀ budget,
        ((idle budget pending).deliver files).StopsAt pending files budget start d frame := by
  induction pending generalizing start with
  | nil => exact .inl (by simp)
  | cons e rest ih =>
    obtain ⟨hv, rfl, hr⟩ := h
    obtain ⟨hme, hmr⟩ := List.forall_mem_cons.1 hm
    obtain ⟨⟨content, hc⟩, hfr⟩ := List.forall_mem_cons.1 hf
    obtain ⟨m, hsized⟩ := hme.exists_sized
    by_cases hfit : e.start = e.stop ∨ e.stop ≤ e.limit m content.size
    · have hwhole := hsized.whole_of_fits hv hc hfit
      rcases ih hr hmr hfr with hall | ⟨d, frame, hfirst, hstops⟩
      · exact .inl (List.forall_mem_cons.2 ⟨hwhole, hall⟩)
      · exact .inr ⟨d, frame, hfirst.cons hwhole, fun budget =>
          stopsAt_cons_of_whole hsized hv hc hfit (hstops budget)⟩
    · have hle := hv.2
      have hlt : e.start < e.stop := by omega
      have hshort : e.limit m content.size < e.stop := by omega
      have hholds : e.Holds (max e.start (e.limit m content.size)) := ⟨by omega, by omega⟩
      refine .inr ⟨e, max e.start (e.limit m content.size), ⟨List.mem_cons_self .., hholds, ?_, ?_⟩,
        fun budget => stopsAt_cons_of_truncated hsized hv hc hlt hshort budget⟩
      · rw [hsized.recordInside_iff hv hc hholds]
        omega
      · rw [List.forall_mem_cons]
        constructor
        · intro other hbefore hother
          rw [hsized.recordInside_iff hv hc hother]
          have hlow := hother.1
          omega
        · -- the frames of the descriptors behind come after all frames of this one
          intro d hd other hbefore hother
          have hlow := (hr.bounds_of_holds hd hother).1
          omega

/-- Over files that are all there, a stream ends without an error or with that for the first
frame whose record does not lie inside its file, and which it is does not hang on the budget. In
front of the error it delivers the frames from the start of the set on, up to less than one tile
before that frame, and behind it nothing. -/
theorem streams_end_at_the_first_missing_frame {s : FileSet} (hs : s.Tiled)
    (hm : ∀ d ∈ s.files, d.Measured) (hf : ∀ d ∈ s.files, d.FileFound files) (budget : Nat) :
    let delivery := (ofFileSet s budget).deliver files
    ((∃ path frame, delivery.ending = .failed (.truncated path frame)) ↔
      ∃ d ∈ s.files, ∃ frame, d.Holds frame ∧ ¬d.RecordInside files frame) ∧
    (∀ path frame, delivery.ending = .failed (.truncated path frame) →
      ∃ d, d.path = path ∧ FirstMissing s.files files d frame ∧
        delivery.StopsAt s.files files budget s.start d frame) ∧
    ((∀ path frame, delivery.ending ≠ .failed (.truncated path frame)) →
      delivery.ending = .finished) ∧
    ∀ other, ((ofFileSet s other).deliver files).ending = delivery.ending := by
  intro delivery
  rcases whole_or_stopsAt hs hm hf with hwhole | ⟨d, frame, hfirst, hstops⟩
  · have hfinished : ∀ other, ((ofFileSet s other).deliver files).ending = .finished := by
      intro other
      obtain ⟨tiles, spans, hdeliver, -⟩ := deliver_idle_of_whole hs hm hwhole other
      exact congrArg Delivery.ending hdeliver
    have hend : delivery.ending = .finished := hfinished budget
    rw [hend]
    refine ⟨iff_of_false (by simp) ?_, by simp, fun _ => rfl, hfinished⟩
    rintro ⟨d, hd, frame, hholds, hmissing⟩
    exact hmissing ((whole_iff.1 (hwhole d hd)).2 frame hholds)
  · have hfailed : ∀ other, ((ofFileSet s other).deliver files).ending =
        .failed (.truncated d.path frame) := by
      intro other
      obtain ⟨tiles, spans, reached, rest, frameBytes, hdeliver, -⟩ := hstops other
      exact congrArg Delivery.ending hdeliver
    have hend : delivery.ending = .failed (.truncated d.path frame) := hfailed budget
    rw [hend]
    refine ⟨iff_of_true ⟨_, _, rfl⟩ ⟨d, hfirst.mem, frame, hfirst.holds, hfirst.missing⟩, ?_, ?_,
      hfailed⟩
    · rintro path other heq
      cases heq
      exact ⟨d, rfl, hfirst, hstops budget⟩
    · intro hnone
      exact absurd rfl (hnone d.path frame)

/-- The second file of the mixed files ends inside the record of its second frame. -/
def shortMixedView : FileView where
  find path :=
    if path = ⟨"a.raw"⟩ then mixedView.find path else .ok (.file (.ofBytes [7, 0, 8]))

theorem fileFound_mixedFiles : ∀ d ∈ mixedFiles.files, d.FileFound shortMixedView := by
  simp only [mixedFiles, List.forall_mem_cons]
  exact ⟨⟨_, rfl⟩, ⟨_, rfl⟩, ⟨_, rfl⟩, by simp⟩

theorem recordInside_shortMixedView : ∀ d ∈ mixedFiles.files, ∀ frame, d.Holds frame →
    (d.RecordInside shortMixedView frame ↔ frame < 4) := by
  simp only [mixedFiles, List.forall_mem_cons]
  refine ⟨?_, ?_, ?_, by simp⟩
  · rintro frame ⟨hs, ht⟩
    obtain rfl | rfl : frame = 1 ∨ frame = 2 := by
      simp only at hs ht
      omega
    · exact iff_of_true ⟨_, 6, 4, rfl, rfl, rfl, by decide⟩ (by decide)
    · exact iff_of_true ⟨_, 10, 4, rfl, rfl, rfl, by decide⟩ (by decide)
  · rintro frame ⟨hs, ht⟩
    simp only at hs ht
    omega
  · rintro frame ⟨hs, ht⟩
    obtain rfl | rfl : frame = 3 ∨ frame = 4 := by
      simp only at hs ht
      omega
    · exact iff_of_true ⟨_, 0, 2, rfl, rfl, rfl, by decide⟩ (by decide)
    · refine iff_of_false ?_ (by decide)
      rintro ⟨content, offset, stride, hc, hoffset, hstride, hle⟩
      cases hc
      cases hoffset
      cases hstride
      exact absurd hle (by decide)

theorem short_mixed_files_end_at_frame_four :
    mixedFiles.Tiled ∧ (∀ d ∈ mixedFiles.files, d.Measured) ∧
      (∀ d ∈ mixedFiles.files, d.FileFound shortMixedView) ∧
      ∃ d, FirstMissing mixedFiles.files shortMixedView d 4 ∧
        ((ofFileSet mixedFiles 3).deliver shortMixedView).StopsAt mixedFiles.files
          shortMixedView 3 1 d 4 ∧
        ((ofFileSet mixedFiles 4).deliver shortMixedView).ending =
          .failed (.truncated d.path 4) := by
  have htiled : mixedFiles.Tiled := by decide
  obtain ⟨hiff, hfirst, -, hbudget⟩ := streams_end_at_the_first_missing_frame htiled
    measured_mixedFiles fileFound_mixedFiles 3
  have hmem : ⟨⟨"b.raw"⟩, 3, 5, 3, .uint16, [1, 1], 0, 0, 0⟩ ∈ mixedFiles.files := by
    simp [mixedFiles]
  have hfour := recordInside_shortMixedView _ hmem 4 (by decide)
  obtain ⟨path, frame, hend⟩ := hiff.2 ⟨_, hmem, 4, by decide, by simp [hfour]⟩
  obtain ⟨d, rfl, hmissing, hstops⟩ := hfirst path frame hend
  have hlow : ¬frame < 4 := fun hlt =>
    hmissing.missing ((recordInside_shortMixedView d hmissing.mem frame hmissing.holds).2 hlt)
  have hhigh : ¬4 < frame := fun hlt =>
    absurd (hfour.1 (hmissing.before _ hmem 4 hlt (by decide))) (Nat.lt_irrefl 4)
  obtain rfl : frame = 4 := by omega
  exact ⟨htiled, measured_mixedFiles, fileFound_mixedFiles, d, hmissing, hstops,
    (hbudget 4).trans hend⟩

end TileStream

end DetectorScan
