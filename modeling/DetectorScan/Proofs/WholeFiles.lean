import DetectorScan.Proofs.FrameOwnership
import DetectorScan.Proofs.TileDelivery
import DetectorScan.Proofs.TileFrames
import Mathlib.Data.List.Forall2

/-!
# Streams over whole files

Where every file of a set is there and holds the whole records of its frames, a stream
comes to its end without an error. The frames of its tiles lie one behind the other over
the range of the set, each tile keeps to one descriptor and to the budget, and each gives
for every frame the bytes that the file stores for it.
-/

namespace DetectorScan

namespace FileDescriptor

/-- The sizes of a descriptor, the numbers of its frames and their offsets are words, and
its records are not empty. -/
def Measured (d : FileDescriptor) : Prop :=
  ∃ frameBytes stride, d.frameBytes = .ok frameBytes ∧ d.stride = .ok stride ∧ 0 < stride ∧
    d.fileHeader + (d.stop - d.fileStart) * stride < wordLimit ∧ d.stop < wordLimit

/-- The file of a descriptor is there, and the whole record of every frame lies inside. -/
def Whole (d : FileDescriptor) (files : FileView) : Prop :=
  ∃ content, files.map d.path = .ok content ∧
    ∀ frame, d.Holds frame → ∃ offset stride, d.recordOffset frame = .ok offset ∧
      d.stride = .ok stride ∧ offset + stride ≤ content.size

/-- The bytes of a file from the offset of a frame's pixels on, as many as a frame has. -/
def Stores (d : FileDescriptor) (files : FileView) (frame : Nat) (bytes : Bytes) : Prop :=
  ∃ content offset frameBytes, files.map d.path = .ok content ∧
    d.payloadOffset frame = .ok offset ∧ d.frameBytes = .ok frameBytes ∧
    content.range offset (offset + frameBytes) = .ok bytes

/-- A tile of some frames of a descriptor, cut under a budget. -/
structure TileOf (d : FileDescriptor) (files : FileView) (budget : Nat) (t : Tile)
    (s : Span) : Prop where
  frameSpan : t.slice.frameSpan = .ok s
  frameCount : t.frameCount = .ok (s.stop - s.start)
  nonempty : s.start < s.stop
  start_ge : d.start ≤ s.start
  stop_le : s.stop ≤ d.stop
  within_budget : t.frameCount = .ok 1 ∨
    ∃ size, t.payloadBytes = .ok size ∧ size ≤ budget
  /-- Only the last tile of a descriptor may be shorter than the budget allows. -/
  full_or_last : s.stop = d.stop ∨ ∃ frameBytes, d.frameBytes = .ok frameBytes ∧
    s.stop - s.start = max 1 (budget / max 1 frameBytes)
  payload : ∀ i < s.stop - s.start, ∃ bytes,
    t.payload i = .ok (some bytes) ∧ d.Stores files (s.start + i) bytes
  payload_past_end : ∀ i, s.stop - s.start ≤ i → t.payload i = .ok none
  payloads : ∃ all, t.payloads = .ok all ∧ all.length = s.stop - s.start ∧
    ∀ i, t.payload i = .ok all[i]?

variable {d : FileDescriptor} {m : FrameSizes} {files : FileView} {content : FileContent}
  {budget : Nat} {s : Span}

/-! ### Sizes -/

theorem exists_planeOf {signal : List Nat} {n : Nat} (h : Word.product signal = .ok n) :
    ∃ height width, planeOf signal = .ok (height, width) := by
  rcases signal with _ | ⟨a, _ | ⟨b, _ | ⟨c, rest⟩⟩⟩
  · exact ⟨1, 1, rfl⟩
  · exact ⟨1, a, rfl⟩
  · exact ⟨a, b, rfl⟩
  · refine ⟨1, n, ?_⟩
    rw [planeOf, h]
    · rfl
    all_goals simp

theorem Measured.exists_sized (h : d.Measured) : ∃ m, d.Sized m := by
  obtain ⟨frameBytes, stride, hbytes, hstride, hpos, hend, hstop⟩ := h
  have hproduct := hbytes
  rw [FileDescriptor.frameBytes] at hproduct
  obtain ⟨n, hn, _⟩ := bind_eq_ok.1 hproduct
  obtain ⟨height, width, hplane⟩ := exists_planeOf hn
  exact ⟨⟨frameBytes, stride, height, width⟩, hbytes, hstride, hplane, hpos, hend, hstop⟩

theorem Whole.stop_le_limit (h : d.Whole files) (hm : d.Sized m) (hv : d.Valid) :
    ∃ content, files.map d.path = .ok content ∧
      (d.start = d.stop ∨ d.stop ≤ d.limit m content.size) := by
  obtain ⟨content, hc, hall⟩ := h
  refine ⟨content, hc, ?_⟩
  obtain ⟨hfile, hle⟩ := hv
  rcases Nat.eq_or_lt_of_le hle with hempty | hlt
  · exact .inl hempty
  · -- the record of the last frame lies inside the file
    have hlast : d.fileStart ≤ d.stop - 1 := by omega
    obtain ⟨offset, stride, hoffset, hstride, hend⟩ := hall (d.stop - 1) ⟨by omega, by omega⟩
    rw [hm.recordOffset_eq hlast (by omega)] at hoffset
    rw [hm.stride_eq] at hstride
    cases hoffset
    cases hstride
    rw [← recordStart_succ hlast] at hend
    have := (hm.lt_limit_iff content.size hlast).2 hend
    exact .inr (by omega)

/-! ### One tile -/

theorem le_one_or_mul_le_of_le_framesPerTile {count frameBytes : Nat}
    (h : count ≤ framesPerTile budget frameBytes) : count ≤ 1 ∨ count * frameBytes ≤ budget := by
  by_cases hone : count ≤ 1
  · exact .inl hone
  · have hpos : 0 < max frameBytes 1 := by omega
    have hdiv : count ≤ budget / max frameBytes 1 := by
      simp only [framesPerTile] at h
      omega
    have hmul := (Nat.le_div_iff_mul_le hpos).1 hdiv
    have hle : count * frameBytes ≤ count * max frameBytes 1 :=
      Nat.mul_le_mul_left _ (Nat.le_max_left ..)
    exact .inr (hle.trans hmul)

theorem Held.stores (h : d.Held m content s) (hc : files.map d.path = .ok content)
    {frame : Nat} (hf : frame ∈ s.frames) : d.Stores files frame (d.stored m content frame) := by
  obtain ⟨hs, ht⟩ := Span.mem_frames.1 hf
  have hoffset := h.sized.payloadOffset_eq (h.start_ge.trans hs) (ht.trans_le h.stop_le)
  exact ⟨content, _, _, hc, hoffset, h.sized.frameBytes_eq, h.range_stored hf⟩

theorem Held.tileOf (h : d.Held m content s) (hc : files.map d.path = .ok content)
    (hs : d.start ≤ s.start) (hcut : s ∈ cuts (framesPerTile budget m.frameBytes) d.start d.stop) :
    d.TileOf files budget (d.tileOn m content s) s := by
  obtain ⟨hlt, hcount, hlast⟩ := mem_cuts hcut
  refine
    { frameSpan := h.frameSpan_tileOn hlt.le
      frameCount := h.frameCount_tileOn
      nonempty := hlt
      start_ge := hs
      stop_le := h.stop_le
      within_budget := ?_
      full_or_last := ?_
      payload := ?_
      payload_past_end := fun i hi => h.payload_tileOn_of_le hi
      payloads := ?_ }
  · have hsmall : s.stop - s.start ≤ framesPerTile budget m.frameBytes := by omega
    rcases le_one_or_mul_le_of_le_framesPerTile hsmall with hone | hbudget
    · left
      rw [h.frameCount_tileOn, show s.stop - s.start = 1 by omega]
    · exact .inr ⟨_, h.payloadBytes_tileOn, hbudget⟩
  · rcases hlast with hfull | hlast
    · refine .inr ⟨m.frameBytes, h.sized.frameBytes_eq, ?_⟩
      rw [hfull, framesPerTile, Nat.max_comm 1, Nat.max_comm 1]
      omega
    · exact .inl hlast
  · intro i hi
    exact ⟨_, h.payload_tileOn hi, h.stores hc (Span.mem_frames.2 ⟨by omega, by omega⟩)⟩
  · refine ⟨_, h.payloads_tileOn, by rw [List.length_map, Span.length_frames], ?_⟩
    intro i
    by_cases hi : i < s.stop - s.start
    · rw [h.payload_tileOn hi, List.getElem?_map, Span.frames, List.getElem?_range' hi]
      simp
    · rw [h.payload_tileOn_of_le (by omega), List.getElem?_eq_none]
      rw [List.length_map, Span.length_frames]
      omega

/-- The runs into which a descriptor is cut give its tiles, as far as its file holds them. -/
theorem Sized.tileOf_of_mem_cuts (hm : d.Sized m) (hv : d.Valid)
    (hc : files.map d.path = .ok content)
    (hs : s ∈ cuts (framesPerTile budget m.frameBytes) d.start d.stop)
    (hfit : s.stop ≤ d.limit m content.size) :
    d.TileOf files budget (d.tileOn m content s) s := by
  obtain ⟨hlow, -, hhigh⟩ := (contiguous_cuts (framesPerTile_pos ..) hv.2).bounds hs
  have hheld : d.Held m content s := ⟨hm, hv.1.trans hlow, hhigh, hfit⟩
  exact hheld.tileOf hc hlow hs

theorem Sized.tileOf_tiles (hm : d.Sized m) (hv : d.Valid)
    (hc : files.map d.path = .ok content)
    (hfit : d.start = d.stop ∨ d.stop ≤ d.limit m content.size) (budget : Nat) :
    List.Forall₂ (d.TileOf files budget) (d.tiles m content budget)
      (cuts (framesPerTile budget m.frameBytes) d.start d.stop) := by
  refine List.forall₂_map_left_iff.2 (List.forall₂_same.2 ?_)
  intro s hs
  obtain ⟨hlow, -, hhigh⟩ := (contiguous_cuts (framesPerTile_pos ..) hv.2).bounds hs
  have hlt := (mem_cuts hs).1
  exact hm.tileOf_of_mem_cuts hv hc hs (by omega)

end FileDescriptor

/-! ### All tiles -/

namespace TileStream

open FileDescriptor FileSet

variable {files : FileView} {start stop : Nat} {pending : List FileDescriptor}

theorem deliver_idle_of_whole (h : Chain start pending stop)
    (hm : ∀ d ∈ pending, d.Measured) (hw : ∀ d ∈ pending, d.Whole files) (budget : Nat) :
    ∃ tiles spans, (idle budget pending).deliver files = ⟨tiles, .finished, idle budget []⟩ ∧
      Contiguous start spans stop ∧
      List.Forall₂ (fun t s => ∃ d ∈ pending, d.TileOf files budget t s) tiles spans := by
  induction pending generalizing start with
  | nil => exact ⟨[], [], deliver_idle_nil, h, .nil⟩
  | cons d rest ih =>
    obtain ⟨hv, rfl, hr⟩ := h
    obtain ⟨hmd, hmr⟩ := List.forall_mem_cons.1 hm
    obtain ⟨hwd, hwr⟩ := List.forall_mem_cons.1 hw
    obtain ⟨m, hsized⟩ := hmd.exists_sized
    obtain ⟨content, hc, hfit⟩ := hwd.stop_le_limit hsized hv
    obtain ⟨tiles, spans, hdeliver, hspans, htiles⟩ := ih hr hmr hwr
    have hfirst := hsized.tileOf_tiles hv hc hfit budget
    refine ⟨d.tiles m content budget ++ tiles,
      cuts (framesPerTile budget m.frameBytes) d.start d.stop ++ spans, ?_, ?_, ?_⟩
    · rw [deliver_cons_of_whole hsized hv hc hfit, hdeliver]
      rfl
    · exact (contiguous_cuts (framesPerTile_pos ..) hv.2).append hspans
    · refine List.rel_append (hfirst.imp ?_) (htiles.imp ?_)
      · intro t s ht
        exact ⟨d, List.mem_cons_self .., ht⟩
      · rintro t s ⟨e, he, ht⟩
        exact ⟨e, List.mem_cons_of_mem _ he, ht⟩

/-- Over whole files a stream delivers tiles that hold every frame of the set once and in
order, each tile with the stored bytes of its frames and within one descriptor, and then
stays at its end. -/
theorem whole_files_are_delivered {s : FileSet} (hs : s.Tiled)
    (hm : ∀ d ∈ s.files, d.Measured) (hw : ∀ d ∈ s.files, d.Whole files) (budget : Nat) :
    ∃ tiles spans rest, (ofFileSet s budget).deliver files = ⟨tiles, .finished, rest⟩ ∧
      rest.next files = .finished rest ∧
      Contiguous s.start spans s.stop ∧
      List.Forall₂ (fun t span => ∃ d ∈ s.files,
        (∀ frame ∈ span.frames, s.owner? frame = some d) ∧ d.TileOf files budget t span)
        tiles spans := by
  obtain ⟨tiles, spans, hdeliver, hspans, htiles⟩ := deliver_idle_of_whole hs hm hw budget
  refine ⟨tiles, spans, idle budget [], hdeliver, rfl, hspans, htiles.imp ?_⟩
  rintro t span ⟨d, hd, ht⟩
  refine ⟨d, hd, ?_, ht⟩
  intro frame hf
  obtain ⟨hlow, hhigh⟩ := Span.mem_frames.1 hf
  exact hs.owner?_eq hd ⟨ht.start_ge.trans hlow, hhigh.trans_le ht.stop_le⟩

/-- Two frames of the first file, cut out behind its first frame, and two of the second,
with a run without frames between them. -/
def mixedFiles : FileSet where
  files :=
    [⟨⟨"a.raw"⟩, 1, 3, 0, .uint8, [2], 1, 1, 2⟩,
      ⟨⟨"a.raw"⟩, 3, 3, 3, .uint64, [], 0, 0, 0⟩,
      ⟨⟨"b.raw"⟩, 3, 5, 3, .uint16, [1, 1], 0, 0, 0⟩]
  start := 1
  stop := 5

def mixedView : FileView where
  find path :=
    if path = ⟨"a.raw"⟩ then .ok (.file (.ofBytes [0, 0, 9, 1, 2, 9, 9, 3, 4, 9, 9, 5, 6, 9]))
    else .ok (.file (.ofBytes [7, 0, 8, 0]))

theorem measured_mixedFiles : ∀ d ∈ mixedFiles.files, d.Measured := by
  simp only [mixedFiles, List.forall_mem_cons]
  exact ⟨⟨2, 4, rfl, rfl, by decide⟩, ⟨8, 8, rfl, rfl, by decide⟩, ⟨2, 2, rfl, rfl, by decide⟩,
    by simp⟩

theorem whole_mixedFiles : ∀ d ∈ mixedFiles.files, d.Whole mixedView := by
  simp only [mixedFiles, List.forall_mem_cons]
  refine ⟨⟨_, rfl, ?_⟩, ⟨_, rfl, ?_⟩, ⟨_, rfl, ?_⟩, by simp⟩
  · rintro frame ⟨hs, ht⟩
    obtain rfl | rfl : frame = 1 ∨ frame = 2 := by
      simp only at hs ht
      omega
    · exact ⟨6, 4, rfl, rfl, by decide⟩
    · exact ⟨10, 4, rfl, rfl, by decide⟩
  · rintro frame ⟨hs, ht⟩
    simp only at hs ht
    omega
  · rintro frame ⟨hs, ht⟩
    obtain rfl | rfl : frame = 3 ∨ frame = 4 := by
      simp only at hs ht
      omega
    · exact ⟨0, 2, rfl, rfl, by decide⟩
    · exact ⟨2, 2, rfl, rfl, by decide⟩

theorem mixed_files_are_delivered :
    mixedFiles.Tiled ∧ (∀ d ∈ mixedFiles.files, d.Measured) ∧
      (∀ d ∈ mixedFiles.files, d.Whole mixedView) ∧
      ∃ tiles spans rest, (ofFileSet mixedFiles 3).deliver mixedView = ⟨tiles, .finished, rest⟩ ∧
        rest.next mixedView = .finished rest ∧ Contiguous 1 spans 5 ∧
        List.Forall₂ (fun t span => ∃ d ∈ mixedFiles.files,
          (∀ frame ∈ span.frames, mixedFiles.owner? frame = some d) ∧
          d.TileOf mixedView 3 t span) tiles spans := by
  have htiled : mixedFiles.Tiled := by decide
  exact ⟨htiled, measured_mixedFiles, whole_mixedFiles,
    whole_files_are_delivered htiled measured_mixedFiles whole_mixedFiles 3⟩

end TileStream

end DetectorScan
