import DetectorScan.Bytes

/-!
# Contents of files

The content of a file is kept in a form in which any part of it is at hand. It stands for
a byte string, `toBytes`, and each operation is the one of that name on byte strings.
-/

namespace DetectorScan

structure FileContent where
  data : Array UInt8
  deriving DecidableEq, Repr

namespace FileContent

def ofBytes (b : Bytes) : FileContent :=
  ⟨b.toArray⟩

def toBytes (c : FileContent) : Bytes :=
  c.data.toList

def size (c : FileContent) : Nat :=
  c.data.size

def take (c : FileContent) (count : Nat) : Bytes :=
  (c.data.extract 0 count).toList

/-- The bytes from `start` up to `stop`, which must lie inside. -/
def range (c : FileContent) (start stop : Nat) : Checked Bytes :=
  if start ≤ stop ∧ stop ≤ c.size then .ok (c.data.extract start stop).toList
  else .error .outOfRange

theorem toBytes_ofBytes (b : Bytes) : (ofBytes b).toBytes = b := by
  simp [ofBytes, toBytes]

theorem ofBytes_toBytes (c : FileContent) : ofBytes c.toBytes = c := by
  simp [ofBytes, toBytes]

theorem length_toBytes (c : FileContent) : c.toBytes.length = c.size := by
  simp [toBytes, size]

theorem take_eq (c : FileContent) (count : Nat) : c.take count = c.toBytes.take count := by
  simp [take, toBytes, List.extract]

theorem range_eq (c : FileContent) (start stop : Nat) :
    c.range start stop = c.toBytes.range start stop := by
  rw [range, Bytes.range, length_toBytes, toBytes, Array.toList_extract, List.extract]

end FileContent

end DetectorScan
