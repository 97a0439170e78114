import DetectorScan.TileStream

/-!
# What a stream delivers

`deliver` pulls at a stream to its end: the tiles in their order, how the stream ended, and
what is left of it. A stream delivers no more tiles than it has frames left, and one that
has failed stays at its end.
-/

namespace DetectorScan.TileStream

inductive Ending where
  | finished
  | failed (cause : ReadError)
  | fault (f : Fault)
  deriving DecidableEq, Repr

structure Delivery where
  tiles : List Tile
  ending : Ending
  rest : TileStream
  deriving DecidableEq, Repr

def Delivery.cons (t : Tile) (d : Delivery) : Delivery :=
  { d with tiles := t :: d.tiles }

/-- Everything that a stream gives. -/
def deliver (files : FileView) (s : TileStream) : Delivery :=
  match _h : s.next files with
  | .tile t rest => (deliver files rest).cons t
  | .failed cause rest => ⟨[], .failed cause, rest⟩
  | .finished rest => ⟨[], .finished, rest⟩
  | .fault f rest => ⟨[], .fault f, rest⟩
  termination_by s.remaining
  decreasing_by exact next_remaining_lt _h

/-! ### One pull at a time -/

theorem deliver_of_tile {files : FileView} {s rest : TileStream} {t : Tile}
    (h : s.next files = .tile t rest) : s.deliver files = (rest.deliver files).cons t := by
  rw [deliver]
  split <;> simp_all

theorem deliver_of_failed {files : FileView} {s rest : TileStream} {cause : ReadError}
    (h : s.next files = .failed cause rest) :
    s.deliver files = ⟨[], .failed cause, rest⟩ := by
  rw [deliver]
  split <;> simp_all

theorem deliver_of_finished {files : FileView} {s rest : TileStream}
    (h : s.next files = .finished rest) : s.deliver files = ⟨[], .finished, rest⟩ := by
  rw [deliver]
  split <;> simp_all

theorem deliver_of_fault {files : FileView} {s rest : TileStream} {f : Fault}
    (h : s.next files = .fault f rest) : s.deliver files = ⟨[], .fault f, rest⟩ := by
  rw [deliver]
  split <;> simp_all

theorem length_tiles_le (files : FileView) (s : TileStream) :
    (s.deliver files).tiles.length ≤ s.remaining := by
  fun_induction deliver files s with
  | case1 s t rest h ih =>
    have := next_remaining_lt h
    simp only [Delivery.cons, List.length_cons]
    omega
  | case2 => exact Nat.zero_le _
  | case3 => exact Nat.zero_le _
  | case4 => exact Nat.zero_le _

/-! ### A failed stream -/

theorem next_of_failed {files : FileView} {s : TileStream} (h : s.failed = true) :
    s.next files = .finished s := by
  simp [next, h]

end DetectorScan.TileStream
