import DetectorScan.BinaryFormat

/-!
# The shortest decimal that reads back

A bit pattern stands for all numbers that round to it, an interval around its value whose
ends belong to it when the significand is even. `shortest` gives the decimal with the
fewest digits inside that interval and, of those, the one nearest to the value. All
comparisons are exact, between natural numbers over one denominator.
-/

namespace DetectorScan

structure Decimal where
  digits : Nat
  exponent : Int
  deriving DecidableEq, Repr

/-- Which of two equally near decimals is taken. -/
inductive TieRule where
  | upward
  | toEven
  deriving DecidableEq, Repr

namespace Decimal

/-- A value and the ends of the interval that rounds to it, as numerators over `unit`. -/
structure Window where
  low : Nat
  value : Nat
  high : Nat
  unit : Nat
  closed : Bool
  deriving DecidableEq, Repr

/-- The window of `m * 2 ^ e`. Below a power of two the numbers lie twice as close, so the
lower end is half as far away there. -/
def Window.of (narrowBelow closed : Bool) (m : Nat) (e : Int) : Window :=
  let up := Nat.pow 2 (e - 2).toNat
  { low := (4 * m - if narrowBelow then 1 else 2) * up
    value := 4 * m * up
    high := (4 * m + 2) * up
    unit := Nat.pow 2 (2 - e).toNat
    closed }

def Window.ofFinite (f : BinaryFormat) (m : Nat) (e : Int) : Window :=
  .of (m = Nat.pow 2 f.fractionBits && f.minExponent < e) (m % 2 = 0) m e

def Window.holds (w : Window) (d step : Nat) : Bool :=
  if w.closed then w.low ≤ d * step && d * step ≤ w.high
  else w.low < d * step && d * step < w.high

def Window.scale (w : Window) (k : Nat) : Window :=
  { w with low := w.low * k, value := w.value * k, high := w.high * k }

def digitCount (n : Nat) : Nat :=
  if n = 0 then 0 else (Nat.toDigits 10 n).length

/-- The exponent of the least power of ten above the value. -/
def Window.magnitude (w : Window) : Int :=
  if w.unit ≤ w.value then digitCount (w.value / w.unit)
  else 1 - (digitCount ((w.unit - 1) / w.value) : Int)

/-- Of the two multiples of `10 ^ exponent` around the value the one that reads back; of
two such the nearer. -/
def Window.onGrid (w : Window) (tie : TieRule) (exponent : Int) : Option Decimal :=
  let w := w.scale (Nat.pow 10 (-exponent).toNat)
  let step := w.unit * Nat.pow 10 exponent.toNat
  let d := w.value / step
  let upper : Option Decimal := some ⟨d + 1, exponent⟩
  let lower : Option Decimal := some ⟨d, exponent⟩
  match w.holds d step, w.holds (d + 1) step with
  | false, false => none
  | true, false => lower
  | false, true => upper
  | true, true =>
    if 2 * w.value < (2 * d + 1) * step then lower
    else if (2 * d + 1) * step < 2 * w.value then upper
    else match tie with
      | .upward => upper
      | .toEven => if d % 2 = 0 then lower else upper

/-- Moves up to `fuel` trailing zeros of the digits into the exponent. -/
def strip : (fuel : Nat) → Decimal → Decimal
  | 0, x => x
  | fuel + 1, x =>
    if x.digits ≠ 0 ∧ x.digits % 10 = 0 then strip fuel ⟨x.digits / 10, x.exponent + 1⟩
    else x

def exact (m : Nat) (e : Int) : Decimal :=
  ⟨m * Nat.pow 2 e.toNat * Nat.pow 5 (-e).toNat, min e 0⟩

/-- Seventeen digits suffice for either format. -/
def maxDigits : Nat := 17

/-- The shortest decimal that reads back as `m * 2 ^ e`, for a positive `m`: grids are
tried from the leading digit downwards. -/
def shortest (f : BinaryFormat) (tie : TieRule) (m : Nat) (e : Int) : Decimal :=
  let w := Window.ofFinite f m e
  let found := (List.range maxDigits).findSome? fun n => w.onGrid tie (w.magnitude - (n + 1 : Nat))
  strip maxDigits (found.getD (exact m e))

def leadingExponent (x : Decimal) : Int :=
  digitCount x.digits + x.exponent - 1

end Decimal

end DetectorScan
