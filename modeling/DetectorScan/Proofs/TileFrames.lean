import DetectorScan.Proofs.RecordLayout
import DetectorScan.Proofs.Spans

/-!
# The frames of a tile

A tile of a run of frames whose records lie inside the file holds every frame of the run,
and gives for each the bytes of its pixels as they are stored.
-/

namespace DetectorScan

/-- The frames of a tile by their numbers, with what the tile holds of each. -/
def Tile.numbered (t : Tile) : Checked (List (Nat × Option Bytes)) := do
  (List.range (← t.frameCount)).mapM fun i => do
    return (t.slice.firstFrame + i, ← t.payload i)

theorem Word.product_singleton {n : Nat} (h : n < wordLimit) : Word.product [n] = .ok n := by
  simp only [Word.product, List.foldlM_cons, List.foldlM_nil]
  rw [Word.mul_of_lt (by omega), ok_bind, Nat.one_mul]
  rfl

theorem Word.product_pair {a b : Nat} (ha : a < wordLimit) (hab : a * b < wordLimit) :
    Word.product [a, b] = .ok (a * b) := by
  simp only [Word.product, List.foldlM_cons, List.foldlM_nil]
  rw [Word.mul_of_lt (by omega), ok_bind, Nat.one_mul, Word.mul_of_lt hab]
  rfl

theorem Slice.frameSpan_frames {start stop : Nat} (signal : List Nat) (hle : start ≤ stop)
    (hstop : stop < wordLimit) :
    (Slice.frames start (stop - start) signal).frameSpan = .ok ⟨start, stop⟩ := by
  have hcount : (Slice.frames start (stop - start) signal).frameCount = .ok (stop - start) :=
    (Slice.frameCount_frames ..).trans (Word.product_singleton (by omega))
  have hadd : Word.add start (stop - start) = .ok stop := by
    rw [Word.add_of_lt (by omega), Nat.add_sub_cancel' hle]
  unfold Slice.frameSpan
  rw [hcount, ok_bind, Slice.firstFrame_frames, hadd]
  rfl

namespace Tile

variable {t : Tile} {count i : Nat}

/-- The bytes of frame `i` of a tile as they are stored. -/
def stored (t : Tile) (i : Nat) : Bytes :=
  (t.content.toBytes.drop (t.offset + i * t.stride)).take t.frameBytes

theorem length_stored_of_le (hsize : t.offset + i * t.stride + t.frameBytes ≤ t.content.size) :
    (t.stored i).length = t.frameBytes := by
  rw [stored, List.length_take, List.length_drop, FileContent.length_toBytes]
  omega

theorem payload_of_bounds (hcount : t.frameCount = .ok count) (hi : i < count)
    (hword : t.offset + i * t.stride + t.frameBytes < wordLimit)
    (hsize : t.offset + i * t.stride + t.frameBytes ≤ t.content.size) :
    t.payload i = .ok (some (t.stored i)) := by
  have hlength := t.content.length_toBytes
  have hrange : t.content.range (t.offset + i * t.stride)
      (t.offset + i * t.stride + t.frameBytes) = .ok (t.stored i) := by
    rw [FileContent.range_eq, Bytes.range_of_le (by omega) (by omega), stored,
      Nat.add_sub_cancel_left]
  rw [payload, hcount, ok_bind, if_neg (by omega), Word.mul_of_lt (by omega), ok_bind,
    Word.add_of_lt (by omega), ok_bind, Word.add_of_lt hword, ok_bind, hrange]
  rfl

theorem payloads_of_payload {f : Nat → Bytes} (hcount : t.frameCount = .ok count)
    (hf : ∀ i < count, t.payload i = .ok (some (f i))) :
    t.payloads = .ok ((List.range count).map f) := by
  have hall : (List.range count).mapM t.payload =
      .ok ((List.range count).map fun i => some (f i)) :=
    mapM_eq_ok fun i hi => hf i (List.mem_range.1 hi)
  rw [payloads, hcount, ok_bind, hall, ok_bind, List.filterMap_map]
  simp only [Function.comp_def, id, List.filterMap_eq_map', pure, Except.pure]

end Tile

namespace FileDescriptor

variable {d : FileDescriptor} {m : FrameSizes} {content : FileContent} {s : Span}

/-- A run of frames of a descriptor, all of whose records its file holds. -/
structure Held (d : FileDescriptor) (m : FrameSizes) (content : FileContent) (s : Span) :
    Prop where
  sized : d.Sized m
  start_ge : d.fileStart ≤ s.start
  stop_le : s.stop ≤ d.stop
  fits : s.stop ≤ d.limit m content.size

theorem Held.recordStart_le (h : d.Held m content s) {frame : Nat} (hf : frame ∈ s.frames) :
    d.recordStart m frame + m.stride ≤ content.size := by
  obtain ⟨hlow, hhigh⟩ := Span.mem_frames.1 hf
  have hs := h.start_ge.trans hlow
  rw [← recordStart_succ hs]
  exact (h.sized.lt_limit_iff content.size hs).1 (hhigh.trans_le h.fits)

theorem Held.length_stored (h : d.Held m content s) {frame : Nat} (hf : frame ∈ s.frames) :
    (d.stored m content frame).length = m.frameBytes := by
  have hend := h.recordStart_le hf
  have hsum := h.sized.stride_sum
  rw [stored, List.length_take, List.length_drop, FileContent.length_toBytes]
  omega

theorem Held.frameCount_tileOn (h : d.Held m content s) :
    (d.tileOn m content s).frameCount = .ok (s.stop - s.start) := by
  have hstop := h.stop_le
  have hword := h.sized.stop_lt
  rw [Tile.frameCount, tileOn, Slice.frameCount_frames,
    Word.product_singleton (show s.stop - s.start < wordLimit by omega)]

theorem Held.frameSpan_tileOn (h : d.Held m content s) (hle : s.start ≤ s.stop) :
    (d.tileOn m content s).slice.frameSpan = .ok s :=
  Slice.frameSpan_frames d.signal hle (h.stop_le.trans_lt h.sized.stop_lt)

/-- The stored pixels of a frame are the bytes of its file from the offset of its pixels on. -/
theorem Held.range_stored (h : d.Held m content s) {frame : Nat} (hf : frame ∈ s.frames) :
    content.range (d.recordStart m frame + d.frameHeader)
      (d.recordStart m frame + d.frameHeader + m.frameBytes) =
        .ok (d.stored m content frame) := by
  have hend := h.recordStart_le hf
  have hsum := h.sized.stride_sum
  have hsize := content.length_toBytes
  rw [FileContent.range_eq, Bytes.range_of_le (by omega) (by omega), stored,
    Nat.add_sub_cancel_left]

theorem stored_tileOn (hs : d.fileStart ≤ s.start) (i : Nat) :
    (d.tileOn m content s).stored i = d.stored m content (s.start + i) := by
  have hadd : d.recordStart m s.start + d.frameHeader + i * m.stride =
      d.recordStart m (s.start + i) + d.frameHeader := by
    rw [recordStart_add hs i]
    omega
  simp only [Tile.stored, tileOn, stored, hadd]

theorem Held.payload_tileOn (h : d.Held m content s) {i : Nat} (hi : i < s.stop - s.start) :
    (d.tileOn m content s).payload i = .ok (some (d.stored m content (s.start + i))) := by
  have hmem : s.start + i ∈ s.frames := Span.mem_frames.2 ⟨by omega, by omega⟩
  have hend := h.recordStart_le hmem
  have hsum := h.sized.stride_sum
  have hword : d.recordStart m (s.start + i) + m.stride < wordLimit := by
    have hstop := h.stop_le
    rw [← recordStart_succ (h.start_ge.trans (Nat.le_add_right ..))]
    exact h.sized.recordStart_lt (by omega)
  rw [recordStart_add h.start_ge i] at hend hword
  rw [← stored_tileOn h.start_ge]
  refine Tile.payload_of_bounds h.frameCount_tileOn hi ?_ ?_
  · simp only [tileOn]
    omega
  · simp only [tileOn]
    omega

theorem Held.payload_tileOn_of_le (h : d.Held m content s) {i : Nat}
    (hi : s.stop - s.start ≤ i) : (d.tileOn m content s).payload i = .ok none := by
  simp only [Tile.payload, h.frameCount_tileOn, ok_bind, hi, if_true]
  rfl

theorem Held.payloadBytes_tileOn (h : d.Held m content s) :
    (d.tileOn m content s).payloadBytes = .ok ((s.stop - s.start) * m.frameBytes) := by
  have hstop := h.stop_le
  have hend := h.sized.end_lt
  have hsum := h.sized.stride_sum
  have hstart := h.start_ge
  have hle : (s.stop - s.start) * m.frameBytes ≤ (d.stop - d.fileStart) * m.stride :=
    Nat.mul_le_mul (by omega) (by omega)
  rw [Tile.payloadBytes, h.frameCount_tileOn, ok_bind]
  exact Word.mul_of_lt (by simp only [tileOn]; omega)

theorem Held.mapM_frames {β : Type} (h : d.Held m content s) {f : Nat → Checked β}
    {g : Nat → β} (hf : ∀ i < s.stop - s.start, f i = .ok (g (s.start + i))) :
    ((d.tileOn m content s).frameCount >>= fun n => (List.range n).mapM f) =
      .ok (s.frames.map g) := by
  rw [h.frameCount_tileOn, ok_bind,
    mapM_eq_ok (g := fun i => g (s.start + i)) fun i hi => hf i (List.mem_range.1 hi),
    Span.frames, List.range'_eq_map_range, List.map_map]
  rfl

theorem Held.payloads_tileOn (h : d.Held m content s) :
    (d.tileOn m content s).payloads = .ok (s.frames.map (d.stored m content)) := by
  rw [Tile.payloads_of_payload h.frameCount_tileOn fun i hi => h.payload_tileOn hi, Span.frames,
    List.range'_eq_map_range, List.map_map]
  rfl

theorem Held.numbered_tileOn (h : d.Held m content s) :
    (d.tileOn m content s).numbered =
      .ok (s.frames.map fun frame => (frame, some (d.stored m content frame))) := by
  refine h.mapM_frames (g := fun frame => (frame, some (d.stored m content frame))) ?_
  intro i hi
  rw [h.payload_tileOn hi]
  rfl

end FileDescriptor

end DetectorScan
