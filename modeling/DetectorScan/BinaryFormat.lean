/-!
# Binary floating-point formats

A `BinaryFormat` says how many bits of a pattern hold the fraction and how many the
exponent. `decode` reads a pattern as a number `m * 2 ^ e`, an infinity or a NaN, and
`ofParts` rounds a number `m * 2 ^ e` to the nearest pattern, to the even one of two.
Sum, difference and product are exact arithmetic on the decoded numbers followed by that
one rounding.

A NaN operand comes out again, made quiet, the left one of two; an operation without a
number as its result gives the quiet NaN with the sign bit set and no further bits.
-/

namespace DetectorScan

structure BinaryFormat where
  fractionBits : Nat
  exponentBits : Nat
  deriving DecidableEq, Repr

/-- What a bit pattern stands for; a finite one is `± m * 2 ^ e`. -/
inductive Datum where
  | finite (negative : Bool) (m : Nat) (e : Int)
  | infinite (negative : Bool)
  | nan
  deriving DecidableEq, Repr

namespace BinaryFormat

@[inline] def single : BinaryFormat := ⟨23, 8⟩

@[inline] def double : BinaryFormat := ⟨52, 11⟩

/-- The exponent of the last bit of the smallest numbers. -/
@[inline] def minExponent (f : BinaryFormat) : Int :=
  2 - Nat.pow 2 (f.exponentBits - 1) - f.fractionBits

@[inline] def signBit (f : BinaryFormat) : Nat :=
  Nat.pow 2 (f.exponentBits + f.fractionBits)

@[inline] def infinity (f : BinaryFormat) : Nat :=
  (Nat.pow 2 f.exponentBits - 1) * Nat.pow 2 f.fractionBits

@[inline] def quietBit (f : BinaryFormat) : Nat :=
  Nat.pow 2 (f.fractionBits - 1)

/-- The NaN that an operation gives when its operands are none. -/
@[inline] def defaultNaN (f : BinaryFormat) : Nat :=
  f.signBit + f.infinity + f.quietBit

@[inline] def isNegative (f : BinaryFormat) (bits : Nat) : Bool :=
  bits / f.signBit % 2 == 1

@[inline] def magnitude (f : BinaryFormat) (bits : Nat) : Nat :=
  bits % f.signBit

@[inline] def decode (f : BinaryFormat) (bits : Nat) : Datum :=
  let magnitude := f.magnitude bits
  let exponent := magnitude / Nat.pow 2 f.fractionBits
  let fraction := magnitude % Nat.pow 2 f.fractionBits
  if f.infinity < magnitude then .nan
  else if magnitude = f.infinity then .infinite (f.isNegative bits)
  else if exponent = 0 then .finite (f.isNegative bits) fraction f.minExponent
  else .finite (f.isNegative bits) (Nat.pow 2 f.fractionBits + fraction)
    (f.minExponent + (exponent - 1 : Nat))

/-! ### Rounding -/

/-- `m / 2 ^ s` rounded to the nearest number, to the even one of two. -/
@[inline] def shiftToNearest (m s : Nat) : Nat :=
  let q := m / Nat.pow 2 s
  let r := m % Nat.pow 2 s
  if 2 * r < Nat.pow 2 s then q
  else if 2 * r = Nat.pow 2 s then q + q % 2
  else q + 1

/-- The magnitude nearest to `m * 2 ^ e`. Its exponent is that of the number with the
leading bit of `m` in front, and no less than the least one; where rounding carries into
the next power of two, the sum carries into the exponent field by itself. -/
@[inline] def ofMagnitude (f : BinaryFormat) (m : Nat) (e : Int) : Nat :=
  let exponent := max (e + m.log2 - f.fractionBits) f.minExponent
  let scaled :=
    if exponent ≤ e then m * Nat.pow 2 (e - exponent).toNat
    else shiftToNearest m (exponent - e).toNat
  min ((exponent - f.minExponent).toNat * Nat.pow 2 f.fractionBits + scaled) f.infinity

/-- The pattern nearest to `± m * 2 ^ e`. -/
@[inline] def ofParts (f : BinaryFormat) (negative : Bool) (m : Nat) (e : Int) : Nat :=
  (if negative then f.signBit else 0) + if m = 0 then 0 else f.ofMagnitude m e

@[inline] def ofNat (f : BinaryFormat) (n : Nat) : Nat :=
  f.ofParts false n 0

@[inline] def ofInt (f : BinaryFormat) (i : Int) : Nat :=
  f.ofParts (i < 0) i.natAbs 0

/-! ### Arithmetic -/

@[inline] def quiet (f : BinaryFormat) (bits : Nat) : Nat :=
  bits ||| f.quietBit

@[inline] def signed (negative : Bool) (m : Nat) : Int :=
  if negative then -m else m

/-- The pattern nearest to the sum of two decoded numbers. An exact zero is negative only
when both numbers are. -/
@[inline] def sumOf (f : BinaryFormat) : Datum → Datum → Nat
  | .finite s m e, .finite t n g =>
    let low := min e g
    let total :=
      signed s (m * Nat.pow 2 (e - low).toNat) + signed t (n * Nat.pow 2 (g - low).toNat)
    f.ofParts (if total = 0 then s && t else total < 0) total.natAbs low
  | .infinite s, .infinite t =>
    if s = t then (if s then f.signBit else 0) + f.infinity else f.defaultNaN
  | .infinite s, _ => (if s then f.signBit else 0) + f.infinity
  | _, .infinite t => (if t then f.signBit else 0) + f.infinity
  | _, _ => f.defaultNaN

def negated : Datum → Datum
  | .finite s m e => .finite (!s) m e
  | .infinite s => .infinite (!s)
  | .nan => .nan

@[inline] def productOf (f : BinaryFormat) : Datum → Datum → Nat
  | .finite s m e, .finite t n g => f.ofParts (s != t) (m * n) (e + g)
  | .infinite s, .infinite t => (if s != t then f.signBit else 0) + f.infinity
  | .infinite s, .finite t n _ =>
    if n = 0 then f.defaultNaN else (if s != t then f.signBit else 0) + f.infinity
  | .finite s m _, .infinite t =>
    if m = 0 then f.defaultNaN else (if s != t then f.signBit else 0) + f.infinity
  | _, _ => f.defaultNaN

/-- An operation on patterns, by what they stand for. A NaN operand comes out again, the
left one of two. -/
@[inline] def lift (f : BinaryFormat) (op : Datum → Datum → Nat) (a b : Nat) : Nat :=
  match f.decode a, f.decode b with
  | .nan, _ => f.quiet a
  | _, .nan => f.quiet b
  | x, y => op x y

@[inline] def add (f : BinaryFormat) : Nat → Nat → Nat :=
  f.lift f.sumOf

@[inline] def sub (f : BinaryFormat) : Nat → Nat → Nat :=
  f.lift fun x y => f.sumOf x (negated y)

@[inline] def mul (f : BinaryFormat) : Nat → Nat → Nat :=
  f.lift f.productOf

end BinaryFormat

end DetectorScan
