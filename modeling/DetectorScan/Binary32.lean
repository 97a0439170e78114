import DetectorScan.BinaryFormat
import DetectorScan.Bytes

/-!
# Single-precision numbers

A pixel of a frame is a bit pattern of the 32-bit format. The pattern is kept as it is,
so that a NaN which is only stored and read again keeps its bits.
-/

namespace DetectorScan

structure Binary32 where
  bits : UInt32
  deriving DecidableEq, Repr, Inhabited

namespace Binary32

/-- The size of a number, in memory and in files. -/
def size : Nat := 4

/-- The number whose pattern is a natural number below `2 ^ 32`. -/
def ofPattern (n : Nat) : Binary32 :=
  ⟨UInt32.ofNat n⟩

def zero : Binary32 := ⟨0⟩

def datum (x : Binary32) : Datum :=
  BinaryFormat.single.decode x.bits.toNat

/-- The number nearest to a natural number, the even one of two. -/
def ofNat (n : Nat) : Binary32 :=
  ofPattern (BinaryFormat.single.ofNat n)

def ofInt (i : Int) : Binary32 :=
  ofPattern (BinaryFormat.single.ofInt i)

def add (x y : Binary32) : Binary32 :=
  ofPattern (BinaryFormat.single.add x.bits.toNat y.bits.toNat)

def sub (x y : Binary32) : Binary32 :=
  ofPattern (BinaryFormat.single.sub x.bits.toNat y.bits.toNat)

def mul (x y : Binary32) : Binary32 :=
  ofPattern (BinaryFormat.single.mul x.bits.toNat y.bits.toNat)

instance : Add Binary32 := ⟨add⟩
instance : Sub Binary32 := ⟨sub⟩
instance : Mul Binary32 := ⟨mul⟩

def isNaN (x : Binary32) : Bool :=
  x.datum = .nan

/-! ### Stored numbers -/

def toBytes (x : Binary32) : Bytes :=
  Bytes.ofNat 4 x.bits.toNat

theorem length_toBytes (x : Binary32) : x.toBytes.length = 4 :=
  Bytes.length_ofNat ..

theorem ofPattern_value_toBytes (x : Binary32) : ofPattern (Bytes.value x.toBytes) = x := by
  rw [ofPattern, toBytes, Bytes.value_ofNat_of_lt x.bits.toNat_lt, UInt32.ofNat_toNat]

end Binary32

end DetectorScan
