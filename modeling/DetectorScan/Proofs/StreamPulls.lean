import DetectorScan.Proofs.TileOrigins
import Mathlib.Algebra.GroupWithZero.Nat

/-!
# Pulling at streams

Streams come to an end over any descriptors, in whatever order and with whatever overlap, and
whatever their files hold. A pull looks once at each file that is left, each tile takes at least
one frame, and behind the first error or the first end nothing follows.
-/

namespace DetectorScan

open FileDescriptor

namespace FileDescriptor

variable {d : FileDescriptor}

/-- The size of a frame and the offsets of all frames of a descriptor are words. -/
structure Locatable (d : FileDescriptor) : Prop where
  frameBytes : ∃ frameBytes, d.frameBytes = .ok frameBytes
  payloadOffset : ∀ frame, d.Holds frame → ∃ offset, d.payloadOffset frame = .ok offset

theorem Bounded.locatable (hb : d.Bounded) (hfile : d.fileStart ≤ d.start) : d.Locatable := by
  obtain ⟨frameBytes, stride, hbytes, hstride, hend, -⟩ := hb
  refine ⟨⟨frameBytes, hbytes⟩, fun frame hholds => ?_⟩
  obtain ⟨hstart, hstop⟩ := hholds
  have hsum := stride_eq_sum hbytes hstride
  have hlast : (frame - d.fileStart + 1) * stride ≤ (d.stop - d.fileStart) * stride :=
    Nat.mul_le_mul_right _ (by omega)
  rw [Nat.add_mul, Nat.one_mul] at hlast
  exact ⟨_, (payloadOffset_eq_ok hstride).2 ⟨by omega, by omega, rfl⟩⟩

theorem exists_of_payloadOffset {frame offset : Nat} (h : d.payloadOffset frame = .ok offset) :
    ∃ stride record, d.stride = .ok stride ∧ d.recordOffset frame = .ok record := by
  obtain ⟨record, hrecord, -⟩ := bind_eq_ok.1 h
  obtain ⟨_, -, hparts⟩ := bind_eq_ok.1 hrecord
  obtain ⟨stride, hstride, -⟩ := bind_eq_ok.1 hparts
  exact ⟨stride, record, hstride, hrecord⟩

end FileDescriptor

namespace TileStream

variable {files : FileView} {s : TileStream} {all : List FileDescriptor} {p : Pull} {n : Nat}

/-! ### Behind the end -/

/-- Pulling at the stream gives nothing and leaves it as it is. -/
def AtEnd (files : FileView) (s : TileStream) : Prop :=
  s.next files = .finished s

theorem atEnd_of_finished {rest : TileStream} (h : s.next files = .finished rest) :
    rest.AtEnd files := by
  have hgives := h ▸ gives_next files s
  cases hgives with
  | stopped hfailed => exact next_of_failed hfailed
  | finished => rfl

theorem atEnd_of_failed {rest : TileStream} {cause : ReadError}
    (h : s.next files = .failed cause rest) : rest.AtEnd files := by
  have hgives := h ▸ gives_next files s
  cases hgives with
  | short => exact next_of_failed rfl
  | unread => exact next_of_failed rfl

def pulled (files : FileView) : Nat → TileStream → TileStream
  | 0, s => s
  | n + 1, s => pulled files n (s.next files).rest

/-- What the pull behind `n` others gives. -/
def pull (files : FileView) (s : TileStream) (n : Nat) : Pull :=
  (s.pulled files n).next files

theorem pull_zero (files : FileView) (s : TileStream) : s.pull files 0 = s.next files := rfl

theorem pull_succ (files : FileView) (s : TileStream) (n : Nat) :
    s.pull files (n + 1) = (s.next files).rest.pull files n := rfl

theorem AtEnd.pull (h : s.AtEnd files) (n : Nat) : s.pull files n = .finished s := by
  induction n with
  | zero => exact h
  | succ n ih => rw [pull_succ, h, Pull.rest, ih]

theorem pending_pulled_suffix (files : FileView) (n : Nat) (s : TileStream) :
    (s.pulled files n).pending <:+ s.pending := by
  induction n generalizing s with
  | zero => exact List.suffix_rfl
  | succ n ih => exact (ih _).trans (gives_next files s).pending_suffix

theorem ReadsFrom.pulled (hs : s.ReadsFrom files all) (n : Nat) :
    (s.pulled files n).ReadsFrom files all := by
  induction n generalizing s with
  | zero => exact hs
  | succ n ih => exact ih ((gives_next files s).readsFrom hs)

/-! ### All pulls in a row -/

/-- What is handed on: a tile or an error, or nothing at the end. A fault has no value. -/
def Pull.item : Pull → Checked (Option (Except ReadError Tile))
  | .tile t _ => .ok (some (.ok t))
  | .failed cause _ => .ok (some (.error cause))
  | .finished _ => .ok none
  | .fault e _ => .error e

def Ending.error? : Ending → Option ReadError
  | .failed cause => some cause
  | .finished => none
  | .fault _ => none

/-- The tiles in their order, and behind them the error if there is one. -/
def Delivery.items (d : Delivery) : List (Except ReadError Tile) :=
  d.tiles.map .ok ++ d.ending.error?.toList.map .error

/-- Pulls that have a value hand on what the stream delivers, one item each, and nothing behind
the last. -/
theorem item_pull (hvalue : ∀ k ≤ n, ∃ item, (s.pull files k).item = .ok item) :
    (s.pull files n).item = .ok (s.deliver files).items[n]? := by
  fun_induction deliver files s generalizing n with
  | case1 s t rest hnext ih =>
    cases n with
    | zero =>
      rw [pull_zero, hnext]
      rfl
    | succ n =>
      rw [pull_succ, hnext]
      refine ih fun k hk => ?_
      have hitem := hvalue (k + 1) (Nat.succ_le_succ hk)
      rwa [pull_succ, hnext] at hitem
  | case2 s cause rest hnext =>
    cases n with
    | zero =>
      rw [pull_zero, hnext]
      rfl
    | succ n =>
      rw [pull_succ, hnext, Pull.rest, (atEnd_of_failed hnext).pull]
      rfl
  | case3 s rest hnext =>
    cases n with
    | zero =>
      rw [pull_zero, hnext]
      rfl
    | succ n =>
      rw [pull_succ, hnext, Pull.rest, (atEnd_of_finished hnext).pull]
      rfl
  | case4 s e rest hnext =>
    obtain ⟨item, hitem⟩ := hvalue 0 (Nat.zero_le n)
    rw [pull_zero, hnext] at hitem
    contradiction

/-! ### Pulls without a fault -/

theorem faultless_ofDescriptor {d : FileDescriptor} (budget : Nat) (h : d.Locatable) :
    (OpenFile.ofDescriptor files budget d).Faultless := by
  obtain ⟨frameBytes, hbytes⟩ := h.frameBytes
  rw [OpenFile.ofDescriptor, hbytes]
  exact (Attempt.faultless_ofExcept _).bind fun content _ => Attempt.faultless_ok _

/-- Where the offset of the next frame is a word, so is the number of a frame that is not there,
since it lies before the end of the descriptor. -/
theorem faultless_nextTile {f : OpenFile} (h : f.descriptor.Locatable)
    (hword : f.descriptor.stop < wordLimit) (hholds : f.descriptor.Holds f.next) :
    f.nextTile.Faultless := by
  obtain ⟨frameBytes, hbytes⟩ := h.frameBytes
  obtain ⟨offset, hoffset⟩ := h.payloadOffset f.next hholds
  obtain ⟨stride, record, hstride, hrecord⟩ := exists_of_payloadOffset hoffset
  obtain ⟨n, hproduct, -⟩ := bind_eq_ok.1 hbytes
  obtain ⟨height, width, hplane⟩ := exists_planeOf hproduct
  have hcount : f.nextCount ≤ f.descriptor.stop - f.next := Nat.min_le_right ..
  have hnext := hholds.2
  simp only [OpenFile.nextTile, hstride, hrecord, hoffset, hbytes, hplane, Attempt.liftM_ok,
    ok_bind]
  split
  · next hshort =>
    rw [Word.add_of_lt (by omega)]
    exact Attempt.faultless_refuse _
  · exact Attempt.faultless_ok _

theorem Gives.exists_item (h : Gives files s p) (hs : s.ReadsFrom files all)
    (hall : ∀ d ∈ all, d.Locatable) (hword : ∀ d ∈ all, d.stop < wordLimit) :
    ∃ item, p.item = .ok item := by
  cases h with
  | stopped => exact ⟨_, rfl⟩
  | finished => exact ⟨_, rfl⟩
  | tile => exact ⟨_, rfl⟩
  | short => exact ⟨_, rfl⟩
  | unread => exact ⟨_, rfl⟩
  | unplaced hcut hlt hfault =>
    obtain ⟨hmem, -, hnext⟩ := hcut.openedFrom hs
    exact absurd hfault (faultless_nextTile (hall _ hmem) (hword _ hmem) ⟨hnext, hlt⟩ _)
  | unsized hpending hfault =>
    have hmem := hs.pending_subset (hpending.mem (List.mem_cons_self ..))
    exact absurd hfault (faultless_ofDescriptor s.budget (hall _ hmem) _)

/-! ### Streams end -/

theorem pendingFrames_eq_sum (pending : List FileDescriptor) :
    pendingFrames pending = (pending.map fun d => d.stop - d.start).sum := by
  induction pending with
  | nil => rfl
  | cons d pending ih => rw [pendingFrames, ih, List.map_cons, List.sum_cons]

/-- A stream over any descriptors ends, whatever their files hold. Every pull returns after a
bounded number of rounds. As long as no offset is too large, the pulls hand on one tile after the
other, no more than there are frames and none without a frame, then an error at most, and then
nothing any more. No offset is too large where each descriptor can place all of its frames. -/
theorem streams_end_within_their_frames {s : FileSet} (hword : ∀ d ∈ s.files, d.stop < wordLimit)
    (files : FileView) (budget : Nat) :
    (∀ n, ∃ rounds ≤ s.files.length + 2, Returns files ((ofFileSet s budget).pulled files n) rounds
      ((ofFileSet s budget).pull files n)) ∧
    (∃ (tiles : List Tile) (error : Option ReadError),
      tiles.length ≤ (s.files.map fun d => d.stop - d.start).sum ∧
      (∀ t ∈ tiles, ∃ count, t.frameCount = .ok count ∧ 0 < count) ∧
      ∀ n, (∀ k ≤ n, ∃ item, ((ofFileSet s budget).pull files k).item = .ok item) →
        ((ofFileSet s budget).pull files n).item =
          .ok (tiles.map .ok ++ error.toList.map .error)[n]?) ∧
    ((∀ d ∈ s.files, d.Locatable) →
      ∀ n, ∃ item, ((ofFileSet s budget).pull files n).item = .ok item) := by
  have hreads : (ofFileSet s budget).ReadsFrom files s.files := readsFrom_ofFileSet s budget
  refine ⟨fun n => ?_, ?_, fun hall n => ?_⟩
  · obtain ⟨rounds, hrounds, hreturns⟩ :=
      exists_returns_next files ((ofFileSet s budget).pulled files n)
    have hpending := (pending_pulled_suffix files n (ofFileSet s budget)).length_le
    exact ⟨rounds, hrounds.trans (Nat.add_le_add_right hpending 2), hreturns⟩
  · refine ⟨((ofFileSet s budget).deliver files).tiles,
      ((ofFileSet s budget).deliver files).ending.error?, ?_, ?_, fun n => item_pull⟩
    · have hcount := length_tiles_le files (ofFileSet s budget)
      have hframes : (ofFileSet s budget).remaining = pendingFrames s.files := Nat.zero_add _
      rwa [hframes, pendingFrames_eq_sum] at hcount
    · intro t ht
      obtain ⟨d, hd, span, hcut⟩ := hreads.cutFrom_of_mem ht
      exact ⟨_, hcut.frameCount_of_lt (hword d hd), Nat.sub_pos_of_lt hcut.nonempty⟩
  · exact (gives_next files _).exists_item (hreads.pulled n) hall hword

/-- A run whose end lies before its start, three frames of a file and one of them again, a run
without frames, and a file that is not there. -/
def unorderedFiles : FileSet where
  files :=
    [⟨⟨"a.raw"⟩, 5, 3, 0, .uint8, [2], 1, 1, 2⟩,
      ⟨⟨"a.raw"⟩, 0, 3, 0, .uint8, [2], 1, 1, 2⟩,
      ⟨⟨"a.raw"⟩, 1, 2, 0, .uint8, [2], 1, 1, 2⟩,
      ⟨⟨"a.raw"⟩, 9, 9, 4, .uint64, [], 0, 0, 0⟩,
      ⟨⟨"c.raw"⟩, 0, 4, 0, .uint16, [], 0, 0, 0⟩]
  start := 5
  stop := 4

def incompleteView : FileView where
  find path := if path = ⟨"a.raw"⟩ then mixedView.find path else .error .notFound

theorem locatable_unorderedFiles : ∀ d ∈ unorderedFiles.files, d.Locatable := by
  simp only [unorderedFiles, List.forall_mem_cons]
  refine ⟨?_, ?_, ?_, ?_, ?_, by simp⟩
  · exact Bounded.locatable ⟨2, 4, rfl, rfl, by decide⟩ (by decide)
  · exact Bounded.locatable ⟨2, 4, rfl, rfl, by decide⟩ (by decide)
  · exact Bounded.locatable ⟨2, 4, rfl, rfl, by decide⟩ (by decide)
  · exact Bounded.locatable ⟨8, 8, rfl, rfl, by decide⟩ (by decide)
  · exact Bounded.locatable ⟨2, 2, rfl, rfl, by decide⟩ (by decide)

theorem unordered_files_end_at_the_missing_file :
    (∀ d ∈ unorderedFiles.files, d.stop < wordLimit) ∧
      (∀ d ∈ unorderedFiles.files, d.Locatable) ∧
      (∀ n, ∃ rounds ≤ 7, Returns incompleteView
        ((ofFileSet unorderedFiles 0).pulled incompleteView n) rounds
        ((ofFileSet unorderedFiles 0).pull incompleteView n)) ∧
      (∃ t, ((ofFileSet unorderedFiles 0).pull incompleteView 3).item = .ok (some (.ok t))) ∧
      ((ofFileSet unorderedFiles 0).pull incompleteView 4).item =
        .ok (some (.error (.storage .notFound))) ∧
      ∀ n, 5 ≤ n → ((ofFileSet unorderedFiles 0).pull incompleteView n).item = .ok none := by
  have hword : ∀ d ∈ unorderedFiles.files, d.stop < wordLimit := by decide
  obtain ⟨hrounds, ⟨tiles, error, -, -, hitems⟩, hvalue⟩ :=
    streams_end_within_their_frames hword incompleteView 0
  have hpull := fun n => hitems n fun k _ => hvalue locatable_unorderedFiles k
  have hfifth : ((ofFileSet unorderedFiles 0).pull incompleteView 5).item = .ok none := rfl
  have hlength : (tiles.map Except.ok ++ error.toList.map Except.error).length ≤ 5 :=
    List.getElem?_eq_none_iff.1 (Except.ok.inj ((hpull 5).symm.trans hfifth))
  refine ⟨hword, locatable_unorderedFiles, hrounds, ⟨_, rfl⟩, rfl, fun n hn => ?_⟩
  rw [hpull n, List.getElem?_eq_none (hlength.trans hn)]

end TileStream

end DetectorScan
