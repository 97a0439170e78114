import DetectorScan.Proofs.TileDelivery

/-!
# What a pull gives

A pull at a stream goes round by round: it opens the next file unless one is open, and cuts a tile
from the open file unless that has no frame left. It looks at each file once at most, and `Gives`
lists all that it can come to.
-/

namespace DetectorScan.TileStream

variable {files : FileView} {s : TileStream} {p : Pull}

/-! ### One round of a pull -/

/-- What looking at one file comes to: the pull returns, or goes on with what is left. -/
inductive Round where
  | returns (p : Pull)
  | again (s : TileStream)

def inspect (budget : Nat) (f : OpenFile) (pending : List FileDescriptor) : Round :=
  if f.next < f.descriptor.stop then .returns (cut budget f pending)
  else .again (idle budget pending)

/-- Opens the next file if none is open, and cuts a tile from the open file unless it has no
frame left. -/
def round (files : FileView) (s : TileStream) : Round :=
  match s.current, s.pending with
  | some f, pending => inspect s.budget f pending
  | none, [] => .returns (.finished s)
  | none, d :: pending =>
    match OpenFile.ofDescriptor files s.budget d with
    | .ok f => inspect s.budget f pending
    | .error (.refused cause) => .returns (.failed cause ⟨pending, none, s.budget, true⟩)
    | .error (.fault e) => .returns (.fault e (idle s.budget pending))

/-- A pull that returns after a number of rounds. A stream that has failed needs none. -/
inductive Returns (files : FileView) : TileStream → Nat → Pull → Prop where
  | failed {s : TileStream} (h : s.failed = true) : Returns files s 0 (.finished s)
  | last {s : TileStream} {p : Pull} (h : s.failed = false)
      (hround : s.round files = .returns p) : Returns files s 1 p
  | again {s rest : TileStream} {rounds : Nat} {p : Pull} (h : s.failed = false)
      (hround : s.round files = .again rest) (hrest : Returns files rest rounds p) :
      Returns files s (rounds + 1) p

theorem inspect_of_lt (budget : Nat) (pending : List FileDescriptor) {f : OpenFile}
    (h : f.next < f.descriptor.stop) : inspect budget f pending = .returns (cut budget f pending) :=
  if_pos h

theorem inspect_of_le (budget : Nat) (pending : List FileDescriptor) {f : OpenFile}
    (h : f.descriptor.stop ≤ f.next) : inspect budget f pending = .again (idle budget pending) :=
  if_neg (Nat.not_lt.2 h)

theorem exists_returns_openNext (files : FileView) (budget : Nat) (pending : List FileDescriptor) :
    ∃ rounds ≤ pending.length + 1,
      Returns files (idle budget pending) rounds (openNext files budget pending) := by
  induction pending with
  | nil => exact ⟨1, Nat.le_refl _, .last rfl rfl⟩
  | cons d pending ih =>
    have hlast : 1 ≤ (d :: pending).length + 1 := Nat.le_add_left ..
    unfold openNext
    split
    · next f hopen =>
      have hround : (idle budget (d :: pending)).round files = inspect budget f pending := by
        simp only [round, idle, hopen]
      split
      · next hlt => exact ⟨1, hlast, .last rfl (hround.trans (inspect_of_lt budget pending hlt))⟩
      · next hempty =>
        obtain ⟨rounds, hrounds, hrest⟩ := ih
        have hagain := hround.trans (inspect_of_le budget pending (Nat.not_lt.1 hempty))
        exact ⟨rounds + 1, Nat.succ_le_succ hrounds, .again rfl hagain hrest⟩
    · next cause hopen => exact ⟨1, hlast, .last rfl (by simp only [round, idle, hopen])⟩
    · next e hopen => exact ⟨1, hlast, .last rfl (by simp only [round, idle, hopen])⟩

theorem exists_returns_next (files : FileView) (s : TileStream) :
    ∃ rounds ≤ s.pending.length + 2, Returns files s rounds (s.next files) := by
  obtain ⟨pending, current, budget, failed⟩ := s
  obtain ⟨rounds, hrounds, hopen⟩ := exists_returns_openNext files budget pending
  cases failed with
  | true => exact ⟨0, Nat.zero_le _, .failed rfl⟩
  | false =>
    cases current with
    | none => exact ⟨rounds, Nat.le_succ_of_le hrounds, hopen⟩
    | some f =>
      have hround : (reading budget f pending).round files = inspect budget f pending := rfl
      by_cases hlt : f.next < f.descriptor.stop
      · have hnext := next_reading_of_lt files budget pending hlt
        refine ⟨1, Nat.le_add_left .., .last rfl ?_⟩
        exact (hround.trans (inspect_of_lt budget pending hlt)).trans (congrArg _ hnext.symm)
      · have hle := Nat.not_lt.1 hlt
        have hagain := hround.trans (inspect_of_le budget pending hle)
        have hnext := next_reading_of_le files budget pending hle
        exact ⟨rounds + 1, Nat.succ_le_succ hrounds, .again rfl hagain (hnext ▸ hopen)⟩

/-! ### What a pull gives -/

/-- The file that a pull cuts its tile from, and the descriptors behind it: the open file, or
the first with a frame among those that are pending. -/
inductive CutsFrom (files : FileView) (s : TileStream) : OpenFile → List FileDescriptor → Prop where
  | current {f : OpenFile} (h : s.current = some f) : CutsFrom files s f s.pending
  | opened {f : OpenFile} {d : FileDescriptor} {pending : List FileDescriptor}
      (hpending : d :: pending <:+ s.pending)
      (h : OpenFile.ofDescriptor files s.budget d = .ok f) : CutsFrom files s f pending

/-- All that a pull can give, and what it leaves. -/
inductive Gives (files : FileView) (s : TileStream) : Pull → Prop where
  | stopped (h : s.failed = true) : Gives files s (.finished s)
  | finished : Gives files s (.finished (idle s.budget []))
  | tile {f : OpenFile} {pending : List FileDescriptor} {t : Tile}
      (hcut : CutsFrom files s f pending) (hlt : f.next < f.descriptor.stop)
      (h : f.nextTile = .ok t) : Gives files s (.tile t (reading s.budget f.advance pending))
  | short {f : OpenFile} {pending : List FileDescriptor} {cause : ReadError}
      (hcut : CutsFrom files s f pending) (hlt : f.next < f.descriptor.stop)
      (h : f.nextTile = .error (.refused cause)) :
      Gives files s (.failed cause ⟨pending, none, s.budget, true⟩)
  | unread {d : FileDescriptor} {pending : List FileDescriptor} {cause : ReadError}
      (hpending : d :: pending <:+ s.pending)
      (h : OpenFile.ofDescriptor files s.budget d = .error (.refused cause)) :
      Gives files s (.failed cause ⟨pending, none, s.budget, true⟩)
  | unplaced {f : OpenFile} {pending : List FileDescriptor} {e : Fault}
      (hcut : CutsFrom files s f pending) (hlt : f.next < f.descriptor.stop)
      (h : f.nextTile = .error (.fault e)) :
      Gives files s (.fault e (reading s.budget f pending))
  | unsized {d : FileDescriptor} {pending : List FileDescriptor} {e : Fault}
      (hpending : d :: pending <:+ s.pending)
      (h : OpenFile.ofDescriptor files s.budget d = .error (.fault e)) :
      Gives files s (.fault e (idle s.budget pending))

theorem gives_cut {f : OpenFile} {pending : List FileDescriptor} (hcut : CutsFrom files s f pending)
    (hlt : f.next < f.descriptor.stop) : Gives files s (cut s.budget f pending) := by
  unfold cut
  split
  · next t h => exact .tile hcut hlt h
  · next cause h => exact .short hcut hlt h
  · next e h => exact .unplaced hcut hlt h

theorem gives_openNext {pending : List FileDescriptor} (h : pending <:+ s.pending) :
    Gives files s (openNext files s.budget pending) := by
  induction pending with
  | nil => exact .finished
  | cons d pending ih =>
    unfold openNext
    split
    · next f hopen =>
      split
      · next hlt => exact gives_cut (.opened h hopen) hlt
      · exact ih ((List.suffix_cons d pending).trans h)
    · next cause hopen => exact .unread h hopen
    · next e hopen => exact .unsized h hopen

theorem gives_next (files : FileView) (s : TileStream) : Gives files s (s.next files) := by
  have hopen : Gives files s (openNext files s.budget s.pending) := gives_openNext List.suffix_rfl
  unfold next
  split
  · next hfailed => exact .stopped hfailed
  · split
    · next f hcurrent =>
      split
      · next hlt => exact gives_cut (.current hcurrent) hlt
      · exact hopen
    · exact hopen

def Pull.rest : Pull → TileStream
  | .tile _ rest => rest
  | .failed _ rest => rest
  | .finished rest => rest
  | .fault _ rest => rest

theorem CutsFrom.suffix {f : OpenFile} {pending : List FileDescriptor}
    (h : CutsFrom files s f pending) : pending <:+ s.pending := by
  cases h with
  | current => exact List.suffix_rfl
  | opened hpending => exact (List.suffix_cons ..).trans hpending

theorem Gives.pending_suffix (h : Gives files s p) : p.rest.pending <:+ s.pending := by
  cases h with
  | stopped => exact List.suffix_rfl
  | finished => exact List.nil_suffix
  | tile hcut => exact hcut.suffix
  | short hcut => exact hcut.suffix
  | unread hpending => exact (List.suffix_cons ..).trans hpending
  | unplaced hcut => exact hcut.suffix
  | unsized hpending => exact (List.suffix_cons ..).trans hpending

end DetectorScan.TileStream
