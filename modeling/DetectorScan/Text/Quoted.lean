import DetectorScan.Text.Hidden

/-!
# Quoted texts

A quoted text shows a hidden character by its number, and marks the double quote and the
backslash. All other characters show themselves.
-/

namespace DetectorScan.Quoted

def byNumber (c : Char) : List Char :=
  ['\\', 'u', '\x7b'] ++ Nat.toDigits 16 c.toNat ++ ['\x7d']

def escape : Char → List Char
  | '\x00' => ['\\', '0']
  | '\t' => ['\\', 't']
  | '\n' => ['\\', 'n']
  | '\r' => ['\\', 'r']
  | '"' => ['\\', '"']
  | '\\' => ['\\', '\\']
  | c => if isHidden c then byNumber c else [c]

/-- A character that is seen, other than the two marked ones, shows itself. -/
theorem escape_of_seen {c : Char} (h : isHidden c = false) (hq : c ≠ '"') (hb : c ≠ '\\') :
    escape c = [c] := by
  have nul : isHidden '\x00' = true := by decide
  have tab : isHidden '\t' = true := by decide
  have feed : isHidden '\n' = true := by decide
  have carriage : isHidden '\r' = true := by decide
  unfold escape
  split <;> simp_all

def text (s : String) : String :=
  "\"" ++ String.ofList (s.toList.flatMap escape) ++ "\""

end DetectorScan.Quoted
