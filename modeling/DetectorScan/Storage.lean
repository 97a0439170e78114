import DetectorScan.FileView

/-!
# Stored files

Files are kept with their contents, each by the way to it from one directory. A path is walked
piece by piece from that directory, so that different spellings reach the same file, and
what cannot be reached ends in the error that an operating system gives for it. The
directories above can be walked too, but hold no file that was not put there.
-/

namespace DetectorScan

/-- Files by the way to them. A way occurs once. -/
structure Storage where
  files : List (List Char × FileContent)
  deriving DecidableEq, Repr

namespace Storage

def empty : Storage := ⟨[]⟩

/-- Where a path leads: a directory, or a name in one, which may be unused. The way to a
directory ends in a slash, unless it is the empty way to where the files are. -/
inductive Place where
  | directory (way : List Char)
  | entry (way : List Char)
  deriving DecidableEq, Repr

def find? (s : Storage) (way : List Char) : Option FileContent :=
  s.files.lookup way

/-- Stores `content` at the end of a way, in place of what was there. -/
def put (s : Storage) (way : List Char) (content : FileContent) : Storage :=
  ⟨(way, content) :: s.files.filter (·.1 ≠ way)⟩

def erase (s : Storage) (way : List Char) : Storage :=
  ⟨s.files.filter (·.1 ≠ way)⟩

def maxNameSize : Nat := 255

def maxPathSize : Nat := 4095

/-- The way to the directory above another; nothing is above the root. -/
def above (way : List Char) : List Char :=
  if way = ['/'] then way else way ++ ['.', '.', '/']

/-- Whether a piece of a path stays in a directory or leaves it upward. -/
def IsDots (piece : List Char) : Prop :=
  piece = ['.'] ∨ piece = ['.', '.']

instance (piece : List Char) : Decidable (IsDots piece) :=
  inferInstanceAs (Decidable (_ ∨ _))

/-- The way to a name in a directory. -/
def enter (way piece : List Char) : Except StorageError (List Char) :=
  if (String.ofList piece).utf8ByteSize > maxNameSize then .error .nameTooLong
  else .ok (way ++ piece)

/-- What is found when a path goes on behind a name: nothing lies below a file. -/
def beyond (s : Storage) (way : List Char) : StorageError :=
  if (s.find? way).isSome then .notADirectory else .notFound

/-- Follows the pieces of a path from a directory. -/
def walk (s : Storage) : (way : List Char) → List (List Char) → Except StorageError Place
  | way, [] => .ok (.directory way)
  | way, piece :: rest =>
    if piece = [] ∨ piece = ['.'] then walk s way rest
    else if piece = ['.', '.'] then walk s (above way) rest
    else do
      let entry ← enter way piece
      if rest = [] then return .entry entry else throw (s.beyond entry)

/-- The directory a path starts from and its pieces, unless the path is refused as a
whole. -/
def startAndPieces (p : Path) : Except StorageError (List Char × List (List Char)) :=
  let chars := p.text.toList
  if '\x00' ∈ chars then .error .nulInPath
  else if p.text.utf8ByteSize > maxPathSize then .error .nameTooLong
  else if chars = [] then .error .notFound
  else .ok (if chars.head? = some '/' then ['/'] else [], Path.pieces chars)

def locate (s : Storage) (p : Path) : Except StorageError Place := do
  let (start, pieces) ← startAndPieces p
  s.walk start pieces

def view (s : Storage) : FileView where
  find path := do
    match ← s.locate path with
    | .directory _ => .ok .directory
    | .entry way =>
      match s.find? way with
      | some content => .ok (.file content)
      | none => .error .notFound

/-- The way to a new file at a path. A path that ends in dots or in a slash asks for a
directory, which cannot be written, whether or not there is one. -/
def targetWay (s : Storage) (p : Path) : Except StorageError (List Char) := do
  let (start, pieces) ← startAndPieces p
  let some last := (pieces.filter (· ≠ [])).getLast? | throw .isADirectory
  match ← s.walk start (pieces.filter (· ≠ [])).dropLast with
  | .entry way => throw (s.beyond way)
  | .directory way =>
    if IsDots last ∨ pieces.getLast? = some [] then throw .isADirectory
    enter way last

/-- Writes a file: the files there then are, and whether it could be written. -/
def write (s : Storage) (p : Path) (content : Bytes) : Storage × Except StorageError Unit :=
  match s.targetWay p with
  | .ok way => (s.put way (.ofBytes content), .ok ())
  | .error cause => (s, .error cause)

/-! ### Ways and contents -/

theorem find?_put_self (s : Storage) (way : List Char) (content : FileContent) :
    (s.put way content).find? way = some content := by
  simp [find?, put]

theorem lookup_filter_ne {way other : List Char} (h : other ≠ way)
    (files : List (List Char × FileContent)) :
    (files.filter (·.1 ≠ way)).lookup other = files.lookup other := by
  induction files with
  | nil => rfl
  | cons file rest ih =>
    obtain ⟨key, content⟩ := file
    by_cases hk : key = way
    · have ho : (other == key) = false := by simp [hk, h]
      simp [hk] at ih ⊢
      simp [List.lookup_cons, hk ▸ ho, ih]
    · simp [hk] at ih ⊢
      simp [List.lookup_cons, ih]

theorem find?_put_of_ne (s : Storage) {way other : List Char} (h : other ≠ way)
    (content : FileContent) : (s.put way content).find? other = s.find? other := by
  have hb : (other == way) = false := by simp [h]
  simp only [find?, put, List.lookup_cons, hb]
  exact lookup_filter_ne h s.files

theorem find?_erase_self (s : Storage) (way : List Char) :
    (s.erase way).find? way = none := by
  simp only [find?, erase, List.lookup_eq_none_iff]
  intro file h
  have hne : file.1 ≠ way := by simpa using (List.mem_filter.1 h).2
  simp [Ne.symm hne]

end Storage

end DetectorScan
