import DetectorScan.Bytes

/-!
# Text in 16-bit units

A character below `0x10000` is one unit and any other a pair of surrogates, the high one
first. `encode` writes characters as units; `decode` reads them and refuses a surrogate
that is not part of such a pair.
-/

namespace DetectorScan.Utf16

def unitsOf (c : Char) : List UInt16 :=
  let n := c.toNat
  if n < 0x10000 then [UInt16.ofNat n]
  else
    [UInt16.ofNat (0xD800 + (n - 0x10000) / 0x400), UInt16.ofNat (0xDC00 + (n - 0x10000) % 0x400)]

def encode (cs : List Char) : List UInt16 :=
  cs.flatMap unitsOf

def isHigh (u : UInt16) : Bool :=
  0xD800 ≤ u.toNat && u.toNat < 0xDC00

def isLow (u : UInt16) : Bool :=
  0xDC00 ≤ u.toNat && u.toNat < 0xE000

def pair (high low : UInt16) : Char :=
  Char.ofNat (0x10000 + (high.toNat - 0xD800) * 0x400 + (low.toNat - 0xDC00))

def decode : List UInt16 → Option (List Char)
  | [] => some []
  | u :: rest =>
    if isHigh u then
      match rest with
      | v :: rest => if isLow v then (decode rest).map (pair u v :: ·) else none
      | [] => none
    else if isLow u then none
    else (decode rest).map (Char.ofNat u.toNat :: ·)

/-! ### Stored units -/

def swapBytes (u : UInt16) : UInt16 :=
  UInt16.ofNat (u.toNat % 256 * 256 + u.toNat / 256)

/-- The units of a byte string, least significant byte first. -/
def ofBytes (b : Bytes) : List UInt16 :=
  (b.items 2).map UInt16.ofNat

def toBytes (units : List UInt16) : Bytes :=
  units.flatMap fun u => Bytes.ofNat 2 u.toNat

theorem length_toBytes (units : List UInt16) : (toBytes units).length = 2 * units.length := by
  induction units with
  | nil => rfl
  | cons u rest ih =>
    simp only [toBytes, List.flatMap_cons, List.length_append, Bytes.length_ofNat,
      List.length_cons] at ih ⊢
    omega

theorem toNat_swapBytes (u : UInt16) :
    (swapBytes u).toNat = u.toNat % 256 * 256 + u.toNat / 256 := by
  have hu : u.toNat < 65536 := u.toNat_lt
  rw [swapBytes, UInt16.toNat_ofNat']
  omega

theorem swapBytes_swapBytes (u : UInt16) : swapBytes (swapBytes u) = u := by
  apply UInt16.toNat_inj.1
  have hu : u.toNat < 65536 := u.toNat_lt
  have hdiv : (u.toNat % 256 * 256 + u.toNat / 256) / 256 = u.toNat % 256 := by omega
  have hmod : (u.toNat % 256 * 256 + u.toNat / 256) % 256 = u.toNat / 256 := by omega
  rw [toNat_swapBytes, toNat_swapBytes, hdiv, hmod]
  omega

end DetectorScan.Utf16
