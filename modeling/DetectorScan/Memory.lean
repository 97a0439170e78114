import DetectorScan.Word

/-!
# Room in memory

Entries that are stored one behind the other need room in memory, and no room is larger than
an object can be. Where their number is known the room is taken at once; where it is not, it
is doubled whenever it is full.
-/

namespace DetectorScan

/-- The largest size of an object in memory. -/
def maxObjectSize : Nat := 0x7fffffffffffffff

/-- How room for entries is taken. -/
inductive Growth where
  | atOnce
  | doubling
  deriving DecidableEq, Repr

namespace Growth

/-- The number of entries that the room is for once `count` have come. Room that is doubled
starts with that for four. -/
def capacity : Growth → (count : Nat) → Nat
  | .atOnce, count => count
  | .doubling, 0 => 0
  | .doubling, last + 1 => max 4 (Nat.pow 2 (last.log2 + 1))

/-- Whether there can be room for `count` entries of a size. -/
def Holds (growth : Growth) (size count : Nat) : Prop :=
  growth.capacity count * size ≤ maxObjectSize

instance (growth : Growth) (size count : Nat) : Decidable (growth.Holds size count) :=
  inferInstanceAs (Decidable (_ ≤ _))

def reserve (growth : Growth) (size count : Nat) : Checked Unit :=
  if growth.Holds size count then .ok () else .error .overflow

theorem holds_atOnce {size count : Nat} :
    Growth.atOnce.Holds size count ↔ count * size ≤ maxObjectSize :=
  Iff.rfl

theorem reserve_of_holds {growth : Growth} {size count : Nat} (h : growth.Holds size count) :
    growth.reserve size count = .ok () :=
  if_pos h

theorem reserve_of_not_holds {growth : Growth} {size count : Nat}
    (h : ¬ growth.Holds size count) : growth.reserve size count = .error .overflow :=
  if_neg h

end Growth

/-- `xs.mapM f`, with room for results of a size that is doubled as they come. The first
refusal ends it; the results before it have been stored by then. -/
def collect {ε α β : Type} (size : Nat) (f : α → Except ε β) (xs : List α) :
    Attempt ε (List β) := do
  Growth.doubling.reserve size (xs.takeWhile fun x => (f x).isOk).length
  Attempt.ofExcept (xs.mapM f)

end DetectorScan
