/-!
# Paths

A path is kept as it was written. Two spellings are the same path when their
components agree: repeated and final slashes do not count, nor does a dot piece
anywhere but in front.
-/

namespace DetectorScan

structure Path where
  text : String
  deriving DecidableEq, Repr, Inhabited

namespace Path

/-- The pieces of a text between its slashes; a text without slashes is one piece. -/
def pieces : List Char → List (List Char)
  | [] => [[]]
  | c :: rest =>
    if c = '/' then [] :: pieces rest
    else match pieces rest with
      | [] => [[c]]
      | piece :: others => (c :: piece) :: others

inductive Component where
  | root
  | here
  | parent
  | name (chars : List Char)
  deriving DecidableEq, Repr

def Component.ofPiece : List Char → Component
  | ['.'] => .here
  | ['.', '.'] => .parent
  | chars => .name chars

/-- The steps after the first: empty pieces and dots stay in place. -/
def laterComponents (rest : List (List Char)) : List Component :=
  (rest.filter fun piece => piece ≠ [] ∧ piece ≠ ['.']).map .ofPiece

def components (p : Path) : List Component :=
  match pieces p.text.toList with
  | [] => []
  | [[]] => []
  | [] :: rest => .root :: laterComponents rest
  | first :: rest => .ofPiece first :: laterComponents rest

/-- Two spellings of one path. -/
def Same (p q : Path) : Prop :=
  p.components = q.components

instance (p q : Path) : Decidable (Same p q) :=
  inferInstanceAs (Decidable (p.components = q.components))

def append (p : Path) (suffix : String) : Path :=
  ⟨p.text ++ suffix⟩

/-- The last step, if it names something. -/
def fileName? (p : Path) : Option (List Char) :=
  match p.components.getLast? with
  | some (.name chars) => some chars
  | _ => none

/-- What follows the last dot of a file name, unless that dot is its first character. -/
def extension? (p : Path) : Option String := do
  let reversed := (← p.fileName?).reverse
  let after := reversed.takeWhile (· ≠ '.')
  match reversed.drop after.length with
  | _ :: _ :: _ => some (String.ofList after.reverse)
  | _ => none

theorem pieces_ne_nil (cs : List Char) : pieces cs ≠ [] := by
  cases cs with
  | nil => simp [pieces]
  | cons c rest =>
    unfold pieces
    split
    · simp
    · split <;> simp

theorem Same.refl (p : Path) : p.Same p := rfl

theorem Same.symm {p q : Path} (h : p.Same q) : q.Same p := Eq.symm h

theorem Same.trans {p q r : Path} (h : p.Same q) (k : q.Same r) : p.Same r := Eq.trans h k

end Path

end DetectorScan
