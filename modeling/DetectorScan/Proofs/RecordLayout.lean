import DetectorScan.Proofs.Attempts
import DetectorScan.TileStream

/-!
# Where records lie in a file

A descriptor whose sizes and offsets are words puts the record of a frame at a fixed
distance from that of the frame before it. How many whole records a file holds says for
every frame whether its record lies inside the file.
-/

namespace DetectorScan

/-- The sizes that a descriptor comes to. -/
structure FrameSizes where
  frameBytes : Nat
  stride : Nat
  height : Nat
  width : Nat

namespace FileDescriptor

/-- The sizes of a descriptor are words, records are not empty, and no offset of a frame is
too large. -/
structure Sized (d : FileDescriptor) (m : FrameSizes) : Prop where
  frameBytes_eq : d.frameBytes = .ok m.frameBytes
  stride_eq : d.stride = .ok m.stride
  plane_eq : planeOf d.signal = .ok (m.height, m.width)
  stride_pos : 0 < m.stride
  end_lt : d.fileHeader + (d.stop - d.fileStart) * m.stride < wordLimit
  stop_lt : d.stop < wordLimit

def recordStart (d : FileDescriptor) (m : FrameSizes) (frame : Nat) : Nat :=
  d.fileHeader + (frame - d.fileStart) * m.stride

/-- The first frame whose record does not lie inside a file of `size` bytes. -/
def limit (d : FileDescriptor) (m : FrameSizes) (size : Nat) : Nat :=
  d.fileStart + OpenFile.wholeRecords size d.fileHeader m.stride

/-- The pixels of a frame as they are stored. -/
def stored (d : FileDescriptor) (m : FrameSizes) (content : FileContent) (frame : Nat) :
    Bytes :=
  (content.toBytes.drop (d.recordStart m frame + d.frameHeader)).take m.frameBytes

/-- The tile of a run of frames. -/
def tileOn (d : FileDescriptor) (m : FrameSizes) (content : FileContent) (s : Span) :
    Tile where
  slice := .frames s.start (s.stop - s.start) d.signal
  element := d.element
  content := content
  offset := d.recordStart m s.start + d.frameHeader
  stride := m.stride
  frameBytes := m.frameBytes
  height := m.height
  width := m.width

variable {d : FileDescriptor} {m : FrameSizes}

theorem stride_eq_sum {frameBytes stride : Nat} (hbytes : d.frameBytes = .ok frameBytes)
    (hstride : d.stride = .ok stride) : d.frameHeader + frameBytes + d.frameFooter = stride := by
  rw [FileDescriptor.stride, hbytes, ok_bind] at hstride
  obtain ⟨_, hadd, hstride⟩ := bind_eq_ok.1 hstride
  obtain ⟨-, rfl⟩ := Word.add_eq_ok.1 hadd
  exact (Word.add_eq_ok.1 hstride).2

theorem Sized.stride_sum (h : d.Sized m) :
    d.frameHeader + m.frameBytes + d.frameFooter = m.stride :=
  stride_eq_sum h.frameBytes_eq h.stride_eq

theorem Sized.of_sameLayout (h : d.Sized m) {e : FileDescriptor} (hl : e.SameLayout d)
    (hstop : e.stop ≤ d.stop) : e.Sized m := by
  have hs := hl.stride_eq
  obtain ⟨_, h₂, h₃, h₄, h₅, h₆, h₇⟩ := hl
  refine ⟨?_, hs.trans h.stride_eq, h₄ ▸ h.plane_eq, h.stride_pos, ?_, ?_⟩
  · rw [← h.frameBytes_eq]
    simp only [frameBytes, h₃, h₄]
  · have hend := h.end_lt
    have hle : (e.stop - e.fileStart) * m.stride ≤ (d.stop - d.fileStart) * m.stride :=
      Nat.mul_le_mul_right _ (by omega)
    omega
  · have := h.stop_lt
    omega

theorem recordStart_add {frame : Nat} (hs : d.fileStart ≤ frame) (k : Nat) :
    d.recordStart m (frame + k) = d.recordStart m frame + k * m.stride := by
  simp only [recordStart]
  rw [show frame + k - d.fileStart = (frame - d.fileStart) + k by omega, Nat.add_mul]
  omega

theorem recordStart_succ {frame : Nat} (hs : d.fileStart ≤ frame) :
    d.recordStart m (frame + 1) = d.recordStart m frame + m.stride := by
  rw [recordStart_add hs, Nat.one_mul]

theorem recordStart_mono {frame other : Nat} (h : frame ≤ other) :
    d.recordStart m frame ≤ d.recordStart m other := by
  have := Nat.mul_le_mul_right m.stride (show frame - d.fileStart ≤ other - d.fileStart by
    omega)
  simp only [recordStart]
  omega

theorem Sized.recordStart_lt (h : d.Sized m) {frame : Nat} (ht : frame ≤ d.stop) :
    d.recordStart m frame < wordLimit :=
  Nat.lt_of_le_of_lt (recordStart_mono ht) h.end_lt

theorem Sized.recordOffset_eq (h : d.Sized m) {frame : Nat} (hs : d.fileStart ≤ frame)
    (ht : frame ≤ d.stop) : d.recordOffset frame = .ok (d.recordStart m frame) := by
  have hlt := h.recordStart_lt ht
  simp only [recordStart] at hlt
  simp only [recordOffset, recordStart, Word.sub_of_le hs, h.stride_eq, ok_bind,
    Word.mul_of_lt (show (frame - d.fileStart) * m.stride < wordLimit by omega),
    Word.add_of_lt hlt]

theorem Sized.payloadOffset_eq (h : d.Sized m) {frame : Nat} (hs : d.fileStart ≤ frame)
    (ht : frame < d.stop) :
    d.payloadOffset frame = .ok (d.recordStart m frame + d.frameHeader) := by
  have hsum := h.stride_sum
  have hnext := h.recordStart_lt (show frame + 1 ≤ d.stop from ht)
  rw [recordStart_succ hs] at hnext
  simp only [payloadOffset, h.recordOffset_eq hs (Nat.le_of_lt ht), ok_bind]
  exact Word.add_of_lt (by omega)

/-! ### Whole records -/

theorem Sized.wholeRecords_eq (h : d.Sized m) (size : Nat) {frame : Nat}
    (hs : d.fileStart ≤ frame) :
    OpenFile.wholeRecords size (d.recordStart m frame) m.stride = d.limit m size - frame := by
  have hpos : max m.stride 1 = m.stride := by
    have := h.stride_pos
    omega
  simp only [OpenFile.wholeRecords, limit, recordStart, hpos]
  rw [← Nat.sub_sub, Nat.mul_comm, Nat.sub_mul_div]
  omega

theorem Sized.lt_limit_iff (h : d.Sized m) (size : Nat) {frame : Nat}
    (hs : d.fileStart ≤ frame) :
    frame < d.limit m size ↔ d.recordStart m (frame + 1) ≤ size := by
  have hstride := h.stride_pos
  have hwhole := h.wholeRecords_eq size hs
  have hpos : max m.stride 1 = m.stride := by omega
  rw [OpenFile.wholeRecords, hpos] at hwhole
  have hle : 1 ≤ (size - d.recordStart m frame) / m.stride ↔
      1 * m.stride ≤ size - d.recordStart m frame := Nat.le_div_iff_mul_le hstride
  rw [recordStart_succ hs]
  omega

end FileDescriptor

/-! ### The next tile of a file -/

open FileDescriptor in
/-- A tile is cut exactly when the records of all its frames lie inside the file; if not,
the error names the first that does not. -/
theorem OpenFile.nextTile_eq {f : OpenFile} {m : FrameSizes} (h : f.descriptor.Sized m)
    (hs : f.descriptor.fileStart ≤ f.next) (ht : f.next < f.descriptor.stop) :
    f.nextTile =
      if f.next + f.nextCount ≤ f.descriptor.limit m f.content.size then
        .ok (f.descriptor.tileOn m f.content ⟨f.next, f.next + f.nextCount⟩)
      else
        Attempt.refuse (.truncated f.descriptor.path
          (max f.next (f.descriptor.limit m f.content.size))) := by
  have hcount : 0 < f.nextCount := by
    have := f.framesPerTile_pos
    simp only [nextCount]
    omega
  have hstop : f.next + f.nextCount ≤ f.descriptor.stop := by
    simp only [nextCount]
    omega
  have hword := h.stop_lt
  simp only [nextTile, h.stride_eq, h.recordOffset_eq hs (Nat.le_of_lt ht), h.wholeRecords_eq _ hs,
    h.payloadOffset_eq hs ht, h.frameBytes_eq, h.plane_eq, Attempt.liftM_ok, ok_bind]
  by_cases hfit : f.next + f.nextCount ≤ f.descriptor.limit m f.content.size
  · rw [if_neg (by omega), if_pos hfit]
    simp only [tileOn, Nat.add_sub_cancel_left]
    rfl
  · rw [if_pos (by omega), if_neg hfit,
      Word.add_of_lt (show f.next + (f.descriptor.limit m f.content.size - f.next) <
        wordLimit by omega),
      show f.next + (f.descriptor.limit m f.content.size - f.next) =
        max f.next (f.descriptor.limit m f.content.size) by omega]
    rfl

end DetectorScan
