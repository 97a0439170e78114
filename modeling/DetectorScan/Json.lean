import DetectorScan.Decimal.Layout

/-!
# JSON values

A `Json` keeps the fields of an object in their order. `compact` writes it without
blanks, `pretty` with a line for each entry. Of the characters in a text only the quote,
the backslash and the controls below the blank are escaped.
-/

namespace DetectorScan

inductive Json where
  | null
  | bool (b : Bool)
  | int (n : Int)
  | real (x : Binary64)
  | text (s : String)
  | list (items : List Json)
  | object (fields : List (String × Json))
  deriving Repr, Inhabited

namespace Json

def nat (n : Nat) : Json :=
  .int n

def nats (ns : List Nat) : Json :=
  .list (ns.map nat)

/-! ### Texts -/

/-- A control character has a short form or four hexadecimal digits. -/
def escapeControl (c : Char) : List Char :=
  match c.toNat with
  | 8 => ['\\', 'b']
  | 9 => ['\\', 't']
  | 10 => ['\\', 'n']
  | 12 => ['\\', 'f']
  | 13 => ['\\', 'r']
  | n => ['\\', 'u', '0', '0', Nat.digitChar (n / 16), Nat.digitChar (n % 16)]

def escape (c : Char) : List Char :=
  if c = '"' then ['\\', '"']
  else if c = '\\' then ['\\', '\\']
  else if c.toNat < 32 then escapeControl c
  else [c]

def quote (s : String) : String :=
  "\"" ++ String.ofList (s.toList.flatMap escape) ++ "\""

/-- Numbers in JSON are positional from `1e-5` up to, not including, `1e16`; there is no
text for what is no number. -/
def numberStyle : NumberStyle where
  tie := .toEven
  plain := some (-5, 15)
  pointZero := true
  exponentPlus := true
  nan := "null"
  infinity := "null"

def realText (x : Binary64) : String :=
  match x.datum with
  | .finite .. => numberStyle.ofBinary64 x
  | _ => "null"

/-! ### Without blanks -/

mutual

def compact : Json → String
  | .null => "null"
  | .bool b => if b then "true" else "false"
  | .int n => toString n
  | .real x => realText x
  | .text s => quote s
  | .list items => "[" ++ compactItems items ++ "]"
  | .object fields => "\x7b" ++ compactFields fields ++ "\x7d"

def compactItems : List Json → String
  | [] => ""
  | [x] => compact x
  | x :: y :: rest => compact x ++ "," ++ compactItems (y :: rest)

def compactFields : List (String × Json) → String
  | [] => ""
  | [(key, x)] => quote key ++ ":" ++ compact x
  | (key, x) :: y :: rest => quote key ++ ":" ++ compact x ++ "," ++ compactFields (y :: rest)

end

/-! ### A line for each entry -/

def newline (level : Nat) : String :=
  "\n" ++ String.ofList (List.replicate (2 * level) ' ')

mutual

def prettyAt (level : Nat) : Json → String
  | .null => "null"
  | .bool b => if b then "true" else "false"
  | .int n => toString n
  | .real x => realText x
  | .text s => quote s
  | .list [] => "[]"
  | .list (x :: rest) => "[" ++ prettyItems (level + 1) (x :: rest) ++ newline level ++ "]"
  | .object [] => "\x7b\x7d"
  | .object (x :: rest) =>
    "\x7b" ++ prettyFields (level + 1) (x :: rest) ++ newline level ++ "\x7d"

def prettyItems (level : Nat) : List Json → String
  | [] => ""
  | [x] => newline level ++ prettyAt level x
  | x :: y :: rest => newline level ++ prettyAt level x ++ "," ++ prettyItems level (y :: rest)

def prettyFields (level : Nat) : List (String × Json) → String
  | [] => ""
  | [(key, x)] => newline level ++ quote key ++ ": " ++ prettyAt level x
  | (key, x) :: y :: rest =>
    newline level ++ quote key ++ ": " ++ prettyAt level x ++ "," ++
      prettyFields level (y :: rest)

end

def pretty (j : Json) : String :=
  prettyAt 0 j

/-! ### Reading values -/

/-- The values of the named fields, in the order of the names. An object may have further
fields; a list gives the fields by position and has to have as many entries. -/
def fields? (names : List String) : Json → Option (List Json)
  | .object fields => names.mapM fun name => fields.lookup name
  | .list items => if items.length = names.length then some items else none
  | _ => none

def nat? : Json → Option Nat
  | .int n => if 0 ≤ n ∧ n.toNat < wordLimit then some n.toNat else none
  | _ => none

def nats? : Json → Option (List Nat)
  | .list items => items.mapM nat?
  | _ => none

def text? : Json → Option String
  | .text s => some s
  | _ => none

def list? : Json → Option (List Json)
  | .list items => some items
  | _ => none

end Json

end DetectorScan
