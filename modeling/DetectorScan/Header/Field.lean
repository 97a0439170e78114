import DetectorScan.Binary64
import DetectorScan.Decimal.Layout
import DetectorScan.Json
import DetectorScan.Text.Quoted
import DetectorScan.Text.Utf16

/-!
# Header fields

The header of a recording is a fixed sequence of fields: integers, one number and two
blocks of text, all with the least significant byte first. A block of text ends at its
first zero unit. It may open with a byte order mark, which is no part of the text; the
mark read backwards says that the units after it have their bytes exchanged.
-/

namespace DetectorScan

inductive FieldKind where
  | unsigned32
  | signed32
  | unsigned16
  | real64
  | text (width : Nat)
  deriving DecidableEq, Repr

inductive FieldValue where
  | unsigned32 (n : UInt32)
  | signed32 (n : Int32)
  | unsigned16 (n : UInt16)
  | real64 (x : Binary64)
  | text (s : String)
  deriving DecidableEq, Repr

namespace FieldKind

def width : FieldKind → Nat
  | .unsigned32 => 4
  | .signed32 => 4
  | .unsigned16 => 2
  | .real64 => 8
  | .text width => width

end FieldKind

/-! ### Blocks of text -/

namespace TextBlock

def byteOrderMark : UInt16 := 0xFEFF

def reversedMark : UInt16 := 0xFFFE

/-- The units before the first zero. -/
def cut (units : List UInt16) : List UInt16 :=
  units.takeWhile (· ≠ 0)

/-- The units of the text itself, in the order of the machine. -/
def normalize : List UInt16 → List UInt16
  | [] => []
  | u :: rest =>
    if u = byteOrderMark then rest
    else if u = reversedMark then rest.map Utf16.swapBytes
    else u :: rest

def decode (b : Bytes) : Option String :=
  (Utf16.decode (normalize (cut (Utf16.ofBytes b)))).map String.ofList

/-- The units that fit the block, filled up with zeros. -/
def encode (width : Nat) (s : String) : Bytes :=
  let stored := Utf16.toBytes ((Utf16.encode s.toList).take (width / 2))
  stored ++ List.replicate (width - stored.length) 0

theorem length_encode (width : Nat) (s : String) : (encode width s).length = width := by
  simp only [encode, List.length_append, List.length_replicate, Utf16.length_toBytes,
    List.length_take]
  omega

end TextBlock

/-! ### Stored values -/

namespace FieldKind

/-- The value of a field from its bytes; only a text can be refused. -/
def decode (kind : FieldKind) (b : Bytes) : Option FieldValue :=
  match kind with
  | .unsigned32 => some (.unsigned32 (UInt32.ofNat b.value))
  | .signed32 => some (.signed32 (Int32.ofNat b.value))
  | .unsigned16 => some (.unsigned16 (UInt16.ofNat b.value))
  | .real64 => some (.real64 (Binary64.ofPattern b.value))
  | .text _ => (TextBlock.decode b).map .text

end FieldKind

namespace FieldValue

/-- The bytes of a value in a field; a text is fitted into `width` bytes. -/
def encode (width : Nat) : FieldValue → Bytes
  | .unsigned32 n => Bytes.ofNat 4 n.toNat
  | .signed32 n => Bytes.ofNat 4 n.toUInt32.toNat
  | .unsigned16 n => Bytes.ofNat 2 n.toNat
  | .real64 x => Bytes.ofNat 8 x.bits.toNat
  | .text s => TextBlock.encode width s

/-- A shown number keeps its point, and is positional from `1e-4` up to, not including,
`1e16`. -/
def numberStyle : NumberStyle where
  tie := .upward
  plain := some (-4, 15)
  pointZero := true
  exponentPlus := false
  nan := "NaN"
  infinity := "inf"

def display : FieldValue → String
  | .unsigned32 n => toString n.toNat
  | .signed32 n => toString n.toInt
  | .unsigned16 n => toString n.toNat
  | .real64 x => numberStyle.ofBinary64 x
  | .text s => s

/-- A value behind the name of its kind. -/
def tagged : FieldValue → String
  | .unsigned32 n => "U32(" ++ toString n.toNat ++ ")"
  | .signed32 n => "I32(" ++ toString n.toInt ++ ")"
  | .unsigned16 n => "U16(" ++ toString n.toNat ++ ")"
  | .real64 x => "F64(" ++ numberStyle.ofBinary64 x ++ ")"
  | .text s => "Text(" ++ Quoted.text s ++ ")"

def toJson : FieldValue → Json
  | .unsigned32 n => .int n.toNat
  | .signed32 n => .int n.toInt
  | .unsigned16 n => .int n.toNat
  | .real64 x => .real x
  | .text s => .text s

end FieldValue

structure Field where
  name : String
  kind : FieldKind
  deriving DecidableEq, Repr

end DetectorScan
