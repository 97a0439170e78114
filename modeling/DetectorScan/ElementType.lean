import DetectorScan.Binary32

/-!
# Element types

The pixels of a recording are unsigned little-endian integers of one, two, four or
eight bytes.
-/

namespace DetectorScan

inductive ElementType where
  | uint8
  | uint16
  | uint32
  | uint64
  deriving DecidableEq, Repr

namespace ElementType

def ofBitDepth? : Nat → Option ElementType
  | 8 => some .uint8
  | 16 => some .uint16
  | 32 => some .uint32
  | 64 => some .uint64
  | _ => none

def size : ElementType → Nat
  | .uint8 => 1
  | .uint16 => 2
  | .uint32 => 4
  | .uint64 => 8

def name : ElementType → String
  | .uint8 => "uint8"
  | .uint16 => "uint16"
  | .uint32 => "uint32"
  | .uint64 => "uint64"

def tag : ElementType → String
  | .uint8 => "U8"
  | .uint16 => "U16"
  | .uint32 => "U32"
  | .uint64 => "U64"

def all : List ElementType := [.uint8, .uint16, .uint32, .uint64]

def ofTag? (s : String) : Option ElementType :=
  all.find? (·.tag = s)

/-- The element at the start of a byte string, which may go on behind it. -/
def first : ElementType → Bytes → Checked Nat
  | .uint8, a :: _ => return Bytes.value [a]
  | .uint16, a :: b :: _ => return Bytes.value [a, b]
  | .uint32, a :: b :: c :: d :: _ => return Bytes.value [a, b, c, d]
  | .uint64, a :: b :: c :: d :: e :: f :: g :: h :: _ =>
    return Bytes.value [a, b, c, d, e, f, g, h]
  | _, _ => throw .outOfRange

/-- The elements of a byte string as numbers of the 32-bit format. An incomplete element
at the end is dropped. -/
def reals : ElementType → Bytes → List Binary32
  | .uint8, b => b.map fun x => .ofNat x.toNat
  | .uint16, b => (b.chunks 2).map fun part => .ofNat part.value
  | .uint32, b => (b.chunks 4).map fun part => .ofNat part.value
  | .uint64, b => (b.chunks 8).map fun part => .ofNat part.value

theorem size_pos (t : ElementType) : 0 < t.size := by
  cases t <;> decide

theorem ofBitDepth?_eq_some {bits : Nat} {t : ElementType} :
    ofBitDepth? bits = some t ↔ bits = 8 * t.size := by
  constructor
  · intro h
    unfold ofBitDepth? at h
    split at h <;> simp at h <;> subst h <;> rfl
  · rintro rfl
    cases t <;> rfl

theorem ofTag?_tag (t : ElementType) : ofTag? t.tag = some t := by
  cases t <;> decide

/-- The numbers of the 32-bit format are those of the elements one by one. -/
theorem reals_eq (t : ElementType) (b : Bytes) :
    t.reals b = (b.items t.size).map Binary32.ofNat := by
  cases t with
  | uint8 =>
    rw [size, Bytes.items_one, List.map_map]
    rfl
  | uint16 | uint32 | uint64 =>
    rw [Bytes.items, List.map_map]
    rfl

theorem first_of_length {t : ElementType} {b : Bytes} (h : b.length = t.size) :
    t.first b = .ok b.value :=
  match t, b, h with
  | .uint8, [_], _ => rfl
  | .uint16, [_, _], _ => rfl
  | .uint32, [_, _, _, _], _ => rfl
  | .uint64, [_, _, _, _, _, _, _, _], _ => rfl

end ElementType

end DetectorScan
