/-!
# Arithmetic on 64-bit words

Sizes, offsets and frame numbers are natural numbers below `2 ^ 64`. The operations
here are exact: where the exact result is no such number there is no result, and the
operation ends in a `Fault` instead of wrapping or stopping at a bound.
-/

namespace DetectorScan

/-- Why a computation on words has no value. -/
inductive Fault where
  | overflow
  | underflow
  | outOfRange
  deriving DecidableEq, Repr

/-- A computation on words. -/
abbrev Checked (α : Type) := Except Fault α

/-- The least natural number that is no word. -/
def wordLimit : Nat := 0x10000000000000000

namespace Word

def max : Nat := wordLimit - 1

def add (a b : Nat) : Checked Nat :=
  if a + b < wordLimit then .ok (a + b) else .error .overflow

def sub (a b : Nat) : Checked Nat :=
  if b ≤ a then .ok (a - b) else .error .underflow

def mul (a b : Nat) : Checked Nat :=
  if a * b < wordLimit then .ok (a * b) else .error .overflow

/-- The product of a list, taken from the left: a zero makes what follows it
irrelevant, and what comes before it can still overflow. -/
def product (xs : List Nat) : Checked Nat :=
  xs.foldlM mul 1

/-! ### When an operation has a value -/

theorem add_eq_ok {a b c : Nat} : add a b = .ok c ↔ a + b < wordLimit ∧ a + b = c := by
  unfold add; split <;> rename_i h <;> simp [h]

theorem sub_eq_ok {a b c : Nat} : sub a b = .ok c ↔ b ≤ a ∧ a - b = c := by
  unfold sub; split <;> rename_i h <;> simp [h]

theorem mul_eq_ok {a b c : Nat} : mul a b = .ok c ↔ a * b < wordLimit ∧ a * b = c := by
  unfold mul; split <;> rename_i h <;> simp [h]

theorem add_of_lt {a b : Nat} (h : a + b < wordLimit) : add a b = .ok (a + b) :=
  if_pos h

theorem sub_of_le {a b : Nat} (h : b ≤ a) : sub a b = .ok (a - b) :=
  if_pos h

theorem mul_of_lt {a b : Nat} (h : a * b < wordLimit) : mul a b = .ok (a * b) :=
  if_pos h

end Word

/-- Two computations in a row have a value exactly when both have. -/
theorem bind_eq_ok {ε α β : Type} {x : Except ε α} {f : α → Except ε β} {b : β} :
    (x >>= f) = .ok b ↔ ∃ a, x = .ok a ∧ f a = .ok b := by
  cases x with
  | error e => simp [bind, Except.bind]
  | ok a => simp [bind, Except.bind]

/-! ### Operations that can also refuse -/

/-- How an operation ends without a result: its arithmetic has no value, or it
refuses its input with a cause of its own. -/
inductive Failure (ε : Type) where
  | fault (f : Fault)
  | refused (cause : ε)
  deriving DecidableEq, Repr

/-- An operation that computes on words and may refuse its input. -/
abbrev Attempt (ε α : Type) := Except (Failure ε) α

namespace Attempt

def refuse {ε α : Type} (cause : ε) : Attempt ε α :=
  .error (.refused cause)

def ofExcept {ε α : Type} : Except ε α → Attempt ε α
  | .ok a => .ok a
  | .error cause => .error (.refused cause)

/-- A computation on words, which never refuses. -/
def ofChecked {ε α : Type} : Checked α → Attempt ε α
  | .ok a => .ok a
  | .error f => .error (.fault f)

/-- The same operation with its causes seen as causes of a wider kind. -/
def widen {ε δ α : Type} (f : ε → δ) : Attempt ε α → Attempt δ α
  | .ok a => .ok a
  | .error (.fault e) => .error (.fault e)
  | .error (.refused cause) => .error (.refused (f cause))

/-- The refusal as a value, for a caller that goes on after one; a fault stays a
fault. -/
def settle {ε α : Type} : Attempt ε α → Checked (Except ε α)
  | .ok a => .ok (.ok a)
  | .error (.fault f) => .error f
  | .error (.refused cause) => .ok (.error cause)

instance {ε : Type} : MonadLift (Except Fault) (Except (Failure ε)) where
  monadLift := ofChecked

end Attempt

end DetectorScan
