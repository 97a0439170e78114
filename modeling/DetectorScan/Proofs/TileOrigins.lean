import DetectorScan.Proofs.PullOutcomes
import DetectorScan.Proofs.WholeFiles

/-!
# Where tiles come from

Every tile that a stream delivers is cut out of the file of one of its descriptors: it holds a
run of frames of that descriptor, and the file holds their records. This needs neither that the
files hold all of their records nor that records are not empty; a frame that is not there is in
no tile. From it follows which bytes a tile gives for its frames.
-/

namespace DetectorScan

/-- As many records as lie in a file from an offset on end inside the file. -/
theorem OpenFile.end_le_of_le_wholeRecords {size offset stride count : Nat} (hcount : 0 < count)
    (h : count ≤ wholeRecords size offset stride) : offset + count * stride ≤ size := by
  have hmul := (Nat.le_div_iff_mul_le (show 0 < max stride 1 by omega)).1 h
  have hone : count * 1 ≤ count * max stride 1 := Nat.mul_le_mul_left _ (Nat.le_max_right ..)
  have hstride : count * stride ≤ count * max stride 1 :=
    Nat.mul_le_mul_left _ (Nat.le_max_left ..)
  omega

namespace FileDescriptor

variable {d : FileDescriptor} {frame offset stride frameBytes : Nat}

/-- The sizes of a descriptor, the numbers of its frames and their offsets are words. -/
def Bounded (d : FileDescriptor) : Prop :=
  ∃ frameBytes stride, d.frameBytes = .ok frameBytes ∧ d.stride = .ok stride ∧
    d.fileHeader + (d.stop - d.fileStart) * stride < wordLimit ∧ d.stop < wordLimit

theorem Measured.bounded (h : d.Measured) : d.Bounded := by
  obtain ⟨frameBytes, stride, hbytes, hstride, -, hend⟩ := h
  exact ⟨frameBytes, stride, hbytes, hstride, hend⟩

theorem recordOffset_eq_ok (hstride : d.stride = .ok stride) :
    d.recordOffset frame = .ok offset ↔ d.fileStart ≤ frame ∧
      d.fileHeader + (frame - d.fileStart) * stride < wordLimit ∧
      d.fileHeader + (frame - d.fileStart) * stride = offset := by
  rw [recordOffset, hstride]
  constructor
  · intro h
    obtain ⟨count, hcount, h⟩ := bind_eq_ok.1 h
    obtain ⟨hle, rfl⟩ := Word.sub_eq_ok.1 hcount
    rw [ok_bind] at h
    obtain ⟨bytes, hbytes, h⟩ := bind_eq_ok.1 h
    obtain ⟨-, rfl⟩ := Word.mul_eq_ok.1 hbytes
    exact ⟨hle, Word.add_eq_ok.1 h⟩
  · rintro ⟨hle, hlt, rfl⟩
    rw [Word.sub_of_le hle, ok_bind, ok_bind, Word.mul_of_lt (by omega), ok_bind,
      Word.add_of_lt hlt]

theorem payloadOffset_eq_ok (hstride : d.stride = .ok stride) :
    d.payloadOffset frame = .ok offset ↔ d.fileStart ≤ frame ∧
      d.fileHeader + (frame - d.fileStart) * stride + d.frameHeader < wordLimit ∧
      d.fileHeader + (frame - d.fileStart) * stride + d.frameHeader = offset := by
  rw [payloadOffset]
  constructor
  · intro h
    obtain ⟨record, hrecord, h⟩ := bind_eq_ok.1 h
    obtain ⟨hle, -, rfl⟩ := (recordOffset_eq_ok hstride).1 hrecord
    exact ⟨hle, Word.add_eq_ok.1 h⟩
  · rintro ⟨hle, hlt, rfl⟩
    rw [(recordOffset_eq_ok hstride).2 ⟨hle, by omega, rfl⟩, ok_bind, Word.add_of_lt hlt]

end FileDescriptor

/-! ### Tiles and their files -/

/-- A tile of a run of frames of a descriptor, all of whose records its file holds. -/
structure Tile.CutFrom (t : Tile) (files : FileView) (d : FileDescriptor) (s : Span) : Prop where
  found : files.map d.path = .ok t.content
  start_ge : d.start ≤ s.start
  nonempty : s.start < s.stop
  stop_le : s.stop ≤ d.stop
  slice_eq : t.slice = .frames s.start (s.stop - s.start) d.signal
  element_eq : t.element = d.element
  offset_eq : d.payloadOffset s.start = .ok t.offset
  stride_eq : d.stride = .ok t.stride
  frameBytes_eq : d.frameBytes = .ok t.frameBytes
  plane_eq : planeOf d.signal = .ok (t.height, t.width)
  records_le : ∃ start, d.recordOffset s.start = .ok start ∧
    start + (s.stop - s.start) * t.stride ≤ t.content.size

/-- An open file is that of one of some descriptors, and no earlier frame is its next. -/
structure OpenFile.OpenedFrom (f : OpenFile) (files : FileView) (all : List FileDescriptor) :
    Prop where
  mem : f.descriptor ∈ all
  found : files.map f.descriptor.path = .ok f.content
  next_ge : f.descriptor.start ≤ f.next

theorem OpenFile.OpenedFrom.cutFrom {f : OpenFile} {files : FileView}
    {all : List FileDescriptor} {t : Tile} (hf : f.OpenedFrom files all)
    (hlt : f.next < f.descriptor.stop) (h : f.nextTile = .ok t) :
    t.CutFrom files f.descriptor ⟨f.next, f.next + f.nextCount⟩ := by
  have hcount : 0 < f.nextCount := by
    have := f.framesPerTile_pos
    simp only [nextCount]
    omega
  have hstop : f.next + f.nextCount ≤ f.descriptor.stop := by
    simp only [nextCount]
    omega
  unfold nextTile at h
  obtain ⟨stride, hstride, h⟩ := bind_eq_ok.1 h
  obtain ⟨start, hstart, h⟩ := bind_eq_ok.1 h
  by_cases hshort : wholeRecords f.content.size start stride < f.nextCount
  · rw [if_pos hshort] at h
    obtain ⟨_, _, h⟩ := bind_eq_ok.1 h
    cases h
  rw [if_neg hshort] at h
  obtain ⟨offset, hoffset, h⟩ := bind_eq_ok.1 h
  obtain ⟨frameBytes, hbytes, h⟩ := bind_eq_ok.1 h
  obtain ⟨⟨height, width⟩, hplane, h⟩ := bind_eq_ok.1 h
  cases h
  refine
    { found := hf.found
      start_ge := hf.next_ge
      nonempty := Nat.lt_add_of_pos_right hcount
      stop_le := hstop
      slice_eq := by rw [Nat.add_sub_cancel_left]
      element_eq := rfl
      offset_eq := Attempt.liftM_eq_ok.1 hoffset
      stride_eq := Attempt.liftM_eq_ok.1 hstride
      frameBytes_eq := Attempt.liftM_eq_ok.1 hbytes
      plane_eq := Attempt.liftM_eq_ok.1 hplane
      records_le := ⟨start, Attempt.liftM_eq_ok.1 hstart, ?_⟩ }
  rw [Nat.add_sub_cancel_left]
  exact end_le_of_le_wholeRecords hcount (Nat.le_of_not_lt hshort)

namespace TileStream

variable {files : FileView} {budget : Nat} {all : List FileDescriptor} {t : Tile} {p : Pull}
  {s rest : TileStream}

/-- A stream that reads the files of some descriptors. -/
structure ReadsFrom (s : TileStream) (files : FileView) (all : List FileDescriptor) : Prop where
  pending_subset : s.pending ⊆ all
  current_opened : ∀ f, s.current = some f → f.OpenedFrom files all

theorem openedFrom_of_ofDescriptor {d : FileDescriptor} {f : OpenFile}
    (h : OpenFile.ofDescriptor files budget d = .ok f) (hd : d ∈ all) :
    f.OpenedFrom files all := by
  obtain ⟨_, _, h⟩ := bind_eq_ok.1 h
  obtain ⟨content, hcontent, h⟩ := bind_eq_ok.1 h
  have hmap := mapError_eq_ok.1 (Attempt.ofExcept_eq_ok.1 hcontent)
  cases h
  exact ⟨hd, hmap, Nat.le_refl _⟩

theorem CutsFrom.openedFrom {f : OpenFile} {pending : List FileDescriptor}
    (h : CutsFrom files s f pending) (hs : s.ReadsFrom files all) : f.OpenedFrom files all := by
  cases h with
  | current hcurrent => exact hs.current_opened f hcurrent
  | opened hpending hopen =>
    have hmem := hs.pending_subset (hpending.mem (List.mem_cons_self ..))
    exact openedFrom_of_ofDescriptor hopen hmem

/-- A pull leaves a stream that reads the same files. -/
theorem Gives.readsFrom (h : Gives files s p) (hs : s.ReadsFrom files all) :
    p.rest.ReadsFrom files all := by
  have hpending := List.Subset.trans h.pending_suffix.subset hs.pending_subset
  cases h with
  | stopped => exact hs
  | finished => exact ⟨hpending, nofun⟩
  | tile hcut =>
    refine ⟨hpending, ?_⟩
    rintro f ⟨⟩
    obtain ⟨hmem, hfound, hnext⟩ := hcut.openedFrom hs
    exact ⟨hmem, hfound, hnext.trans (Nat.le_add_right ..)⟩
  | short => exact ⟨hpending, nofun⟩
  | unread => exact ⟨hpending, nofun⟩
  | unplaced hcut =>
    refine ⟨hpending, ?_⟩
    rintro f ⟨⟩
    exact hcut.openedFrom hs
  | unsized => exact ⟨hpending, nofun⟩

theorem ReadsFrom.cutFrom_of_next (hs : s.ReadsFrom files all)
    (h : s.next files = .tile t rest) :
    (∃ d ∈ all, ∃ span, t.CutFrom files d span) ∧ rest.ReadsFrom files all := by
  have hgives := gives_next files s
  rw [h] at hgives
  refine ⟨?_, hgives.readsFrom hs⟩
  cases hgives with
  | tile hcut hlt htile =>
    have hopened := hcut.openedFrom hs
    exact ⟨_, hopened.mem, _, hopened.cutFrom hlt htile⟩

/-- Every tile that a stream delivers is cut out of a file of one of its descriptors. -/
theorem ReadsFrom.cutFrom_of_mem (hs : s.ReadsFrom files all) (ht : t ∈ (s.deliver files).tiles) :
    ∃ d ∈ all, ∃ span, t.CutFrom files d span := by
  fun_induction deliver files s with
  | case1 s tile rest h ih =>
    obtain ⟨hcut, hrest⟩ := hs.cutFrom_of_next h
    rcases List.mem_cons.1 ht with rfl | ht
    · exact hcut
    · exact ih hrest ht
  | case2 => contradiction
  | case3 => contradiction
  | case4 => contradiction

theorem readsFrom_ofFileSet (s : FileSet) (budget : Nat) :
    (ofFileSet s budget).ReadsFrom files s.files where
  pending_subset := List.Subset.refl _
  current_opened := by
    rintro f ⟨⟩

end TileStream

/-! ### The frames of a tile -/

namespace Tile

namespace CutFrom

variable {t : Tile} {files : FileView} {d : FileDescriptor} {s : Span} {i : Nat}

theorem frameCount_of_lt (h : t.CutFrom files d s) (hword : d.stop < wordLimit) :
    t.frameCount = .ok (s.stop - s.start) := by
  have hstop := h.stop_le
  rw [Tile.frameCount, h.slice_eq, Slice.frameCount_frames,
    Word.product_singleton (show s.stop - s.start < wordLimit by omega)]

theorem frameCount_eq (h : t.CutFrom files d s) (hb : d.Bounded) :
    t.frameCount = .ok (s.stop - s.start) := by
  obtain ⟨_, _, _, _, _, hword⟩ := hb
  exact h.frameCount_of_lt hword

theorem frameSpan_eq (h : t.CutFrom files d s) (hb : d.Bounded) :
    t.slice.frameSpan = .ok s := by
  obtain ⟨_, _, _, _, _, hword⟩ := hb
  rw [h.slice_eq]
  exact Slice.frameSpan_frames d.signal h.nonempty.le (h.stop_le.trans_lt hword)

/-- The record of a frame of a tile ends inside the words and inside the file. -/
theorem payload_bounds (h : t.CutFrom files d s) (hb : d.Bounded) (hi : i < s.stop - s.start) :
    d.payloadOffset (s.start + i) = .ok (t.offset + i * t.stride) ∧
      t.offset + i * t.stride + t.frameBytes < wordLimit ∧
      t.offset + i * t.stride + t.frameBytes ≤ t.content.size := by
  obtain ⟨_, stride, _, hstride, hend, -⟩ := hb
  cases h.stride_eq.symm.trans hstride
  obtain ⟨hfile, -, hoffset⟩ := (FileDescriptor.payloadOffset_eq_ok hstride).1 h.offset_eq
  obtain ⟨start, hstart, hsize⟩ := h.records_le
  obtain ⟨-, -, rfl⟩ := (FileDescriptor.recordOffset_eq_ok hstride).1 hstart
  have hsum := FileDescriptor.stride_eq_sum h.frameBytes_eq hstride
  have hstop := h.stop_le
  have hrecord : (i + 1) * t.stride ≤ (s.stop - s.start) * t.stride :=
    Nat.mul_le_mul_right _ hi
  have hlast : (s.start + (i + 1) - d.fileStart) * t.stride ≤ (d.stop - d.fileStart) * t.stride :=
    Nat.mul_le_mul_right _ (by omega)
  have hframe : s.start + i - d.fileStart = (s.start - d.fileStart) + i := by omega
  rw [show s.start + (i + 1) - d.fileStart = (s.start - d.fileStart) + (i + 1) by omega,
    Nat.add_mul] at hlast
  rw [Nat.add_mul] at hrecord hlast
  rw [FileDescriptor.payloadOffset_eq_ok hstride, hframe, Nat.add_mul]
  omega

theorem length_stored (h : t.CutFrom files d s) (hb : d.Bounded) (hi : i < s.stop - s.start) :
    (t.stored i).length = t.frameBytes :=
  length_stored_of_le (h.payload_bounds hb hi).2.2

theorem payloads_eq (h : t.CutFrom files d s) (hb : d.Bounded) :
    t.payloads = .ok ((List.range (s.stop - s.start)).map t.stored) :=
  payloads_of_payload (h.frameCount_eq hb) fun _ hi =>
    have hbounds := (h.payload_bounds hb hi).2
    payload_of_bounds (h.frameCount_eq hb) hi hbounds.1 hbounds.2

theorem payloadBytes_eq (h : t.CutFrom files d s) (hb : d.Bounded) :
    t.payloadBytes = .ok ((s.stop - s.start) * t.frameBytes) := by
  have hcount := h.frameCount_eq hb
  obtain ⟨_, stride, _, hstride, hend, -⟩ := hb
  cases h.stride_eq.symm.trans hstride
  have hfile := ((FileDescriptor.payloadOffset_eq_ok hstride).1 h.offset_eq).1
  have hsum := FileDescriptor.stride_eq_sum h.frameBytes_eq hstride
  have hstop := h.stop_le
  have hle : (s.stop - s.start) * t.frameBytes ≤ (d.stop - d.fileStart) * t.stride :=
    Nat.mul_le_mul (by omega) (by omega)
  rw [Tile.payloadBytes, hcount, ok_bind, Word.mul_of_lt (by omega)]

end CutFrom

end Tile

end DetectorScan
