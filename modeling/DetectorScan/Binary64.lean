import DetectorScan.BinaryFormat

/-!
# Double-precision numbers

The frame rate of a recording and the share of memory that reading may take are bit
patterns of the 64-bit format.
-/

namespace DetectorScan

structure Binary64 where
  bits : UInt64
  deriving DecidableEq, Repr, Inhabited

namespace Binary64

def ofPattern (n : Nat) : Binary64 :=
  ⟨UInt64.ofNat n⟩

def zero : Binary64 := ⟨0⟩

def one : Binary64 := ⟨0x3FF0000000000000⟩

def quarter : Binary64 := ⟨0x3FD0000000000000⟩

def datum (x : Binary64) : Datum :=
  BinaryFormat.double.decode x.bits.toNat

def ofNat (n : Nat) : Binary64 :=
  ofPattern (BinaryFormat.double.ofNat n)

def mul (x y : Binary64) : Binary64 :=
  ofPattern (BinaryFormat.double.mul x.bits.toNat y.bits.toNat)

instance : Mul Binary64 := ⟨mul⟩

/-- Whether `0 < x ≤ 1`. Positive numbers are ordered as their patterns are, and the
patterns of negative numbers and of NaNs are above all of these. -/
def isPositiveShare (x : Binary64) : Bool :=
  0 < x.bits && x.bits ≤ one.bits

/-- The largest integer not above a number, held between zero and `bound`; a NaN counts
as zero. -/
def floorTo (bound : Nat) (x : Binary64) : Nat :=
  match x.datum with
  | .finite false m e => min bound (m * Nat.pow 2 e.toNat / Nat.pow 2 (-e).toNat)
  | .infinite false => bound
  | _ => 0

end Binary64

end DetectorScan
