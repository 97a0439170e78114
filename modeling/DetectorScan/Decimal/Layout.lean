import DetectorScan.Binary32
import DetectorScan.Binary64
import DetectorScan.Decimal.Shortest

/-!
# Written numbers

A `NumberStyle` says how a floating-point number is written: where positional notation
ends, whether an integral value keeps its point, how an exponent looks, and the texts of
what is no number.
-/

namespace DetectorScan

structure NumberStyle where
  tie : TieRule
  /-- The exponents of the leading digit that are written positionally, all if none is
  given. -/
  plain : Option (Int × Int)
  pointZero : Bool
  exponentPlus : Bool
  nan : String
  infinity : String
  deriving Repr

namespace NumberStyle

/-- Digits with the point behind the first of them, if there are more. -/
def scientific (style : NumberStyle) (digits : List Char) (exponent : Int) : String :=
  let body := match digits with
    | first :: second :: rest => first :: '.' :: second :: rest
    | _ => digits
  let plus := if style.exponentPlus ∧ 0 ≤ exponent then "+" else ""
  String.ofList body ++ "e" ++ plus ++ toString exponent

/-- Digits with the point where it belongs, behind, inside or in front of them. -/
def positional (style : NumberStyle) (digits : List Char) (exponent : Int) : String :=
  if 0 ≤ exponent then
    String.ofList (digits ++ List.replicate exponent.toNat '0') ++
      if style.pointZero then ".0" else ""
  else
    let places := (-exponent).toNat
    if places < digits.length then
      String.ofList (digits.take (digits.length - places) ++ '.' ::
        digits.drop (digits.length - places))
    else
      "0." ++ String.ofList (List.replicate (places - digits.length) '0' ++ digits)

def isPositional (style : NumberStyle) (leading : Int) : Bool :=
  match style.plain with
  | none => true
  | some (least, most) => least ≤ leading && leading ≤ most

def unsigned (style : NumberStyle) (f : BinaryFormat) (m : Nat) (e : Int) : String :=
  if m = 0 then style.positional ['0'] 0
  else
    let x := Decimal.shortest f style.tie m e
    let digits := Nat.toDigits 10 x.digits
    if style.isPositional x.leadingExponent then style.positional digits x.exponent
    else style.scientific digits x.leadingExponent

def ofDatum (style : NumberStyle) (f : BinaryFormat) : Datum → String
  | .nan => style.nan
  | .infinite negative => (if negative then "-" else "") ++ style.infinity
  | .finite negative m e => (if negative then "-" else "") ++ style.unsigned f m e

def ofBinary32 (style : NumberStyle) (x : Binary32) : String :=
  style.ofDatum .single x.datum

def ofBinary64 (style : NumberStyle) (x : Binary64) : String :=
  style.ofDatum .double x.datum

end NumberStyle

end DetectorScan
