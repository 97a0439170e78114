import DetectorScan.Binary32
import DetectorScan.FileView
import DetectorScan.Grid

/-!
# Images in MRC files

An MRC file is a header of 1024 bytes, an optional second header, and the cells of a
block of `nz * ny * nx` numbers with the last axis running fastest. Reading drops the
axes of length one; writing takes one to three axes and stores 32-bit numbers.
-/

namespace DetectorScan

inductive MrcError where
  | tooShort (held : Nat)
  | bigEndian
  | dimensions (dims : List Int)
  | unknownMode (code : Int)
  | tooLarge (dims : List Nat)
  | dataTooShort (needed held : Nat)
  | shape (cause : ShapeFault)
  | rank (axes : Nat)
  deriving DecidableEq, Repr

namespace Mrc

def headerSize : Nat := 1024

inductive Mode where
  | int8
  | int16
  | float32
  | uint16
  deriving DecidableEq, Repr

namespace Mode

def ofCode? : Int → Option Mode
  | 0 => some .int8
  | 1 => some .int16
  | 2 => some .float32
  | 6 => some .uint16
  | _ => none

def size : Mode → Nat
  | .int8 => 1
  | .int16 => 2
  | .float32 => 4
  | .uint16 => 2

/-- A number of `8 * size` bits as a signed one. -/
def signed (size n : Nat) : Int :=
  if 2 * n < Nat.pow 256 size then n else n - Nat.pow 256 size

/-- The number that a cell stands for, from the natural number in its bytes. -/
def cell (mode : Mode) (n : Nat) : Binary32 :=
  match mode with
  | .int8 => .ofInt (signed 1 n)
  | .int16 => .ofInt (signed 2 n)
  | .float32 => .ofPattern n
  | .uint16 => .ofNat n

end Mode

def wordAt (b : Bytes) (offset : Nat) : Checked Int := do
  return Mode.signed 4 (← b.natAt offset 4)

/-- The end of the cells, if it is a word. -/
def dataEnd? (cellSize : Nat) (dims : List Nat) (extended : Nat) : Option Nat := do
  let length ← dims.foldlM (fun n d => (Word.mul n d).toOption) cellSize
  let length ← (Word.add length headerSize).toOption
  (Word.add length extended).toOption

def decode (b : Bytes) : Attempt MrcError (Grid Binary32) := do
  if b.length < headerSize then Attempt.refuse (.tooShort b.length)
  if (← b.natAt 212 1) = 0x11 then Attempt.refuse .bigEndian
  let dims := [← wordAt b 8, ← wordAt b 4, ← wordAt b 0]
  if dims.any (· ≤ 0) then Attempt.refuse (.dimensions dims)
  let dims := dims.map Int.toNat
  let code ← wordAt b 12
  let extended := (← wordAt b 92).toNat
  let some mode := Mode.ofCode? code | Attempt.refuse (.unknownMode code)
  let some stop := dataEnd? mode.size dims extended | Attempt.refuse (.tooLarge dims)
  let start ← Word.add headerSize extended
  if b.length < stop then Attempt.refuse (.dataTooShort stop b.length)
  let stored ← b.range start stop
  -- Cells of four bytes take no more room than the file does.
  if mode ≠ .float32 then Growth.atOnce.reserve Binary32.size (stored.length / mode.size)
  let cells := (stored.items mode.size).map mode.cell
  Attempt.ofExcept ((Grid.shaped (dims.filter (· ≠ 1)) cells).mapError .shape)

def axes? : List Nat → Option (Nat × Nat × Nat)
  | [nx] => some (1, 1, nx)
  | [ny, nx] => some (1, ny, nx)
  | [nz, ny, nx] => some (nz, ny, nx)
  | _ => none

/-- Words and marks at their offsets in a header, with zeros between them. -/
def assemble : (position : Nat) → List (Nat × Bytes) → Bytes
  | position, [] => List.replicate (headerSize - position) 0
  | position, (offset, b) :: rest =>
    List.replicate (offset - position) 0 ++ b ++ assemble (offset + b.length) rest

def formatMark : Bytes := [0x4D, 0x41, 0x50, 0x20]

def header (nz ny nx : Nat) : Bytes :=
  let word := Bytes.ofNat 4
  assemble 0
    [(0, word nx), (4, word ny), (8, word nz), (12, word 2),
     (28, word nx), (32, word ny), (36, word nz),
     (64, word 1), (68, word 2), (72, word 3),
     (104, word 20140), (208, formatMark), (212, [0x44, 0x44])]

def encode (g : Grid Binary32) : Except MrcError Bytes :=
  match axes? g.shape with
  | some (nz, ny, nx) => .ok (header nz ny nx ++ g.cells.flatMap Binary32.toBytes)
  | none => .error (.rank g.shape.length)

theorem length_header (nz ny nx : Nat) : (header nz ny nx).length = headerSize := by
  simp only [header, assemble, formatMark, headerSize, List.length_append,
    List.length_replicate, Bytes.length_ofNat, List.length_cons, List.length_nil]

end Mrc

def intListText (xs : List Int) : String :=
  "[" ++ ", ".intercalate (xs.map toString) ++ "]"

def MrcError.message : MrcError → String
  | .tooShort held => s!"MRC header needs {Mrc.headerSize} bytes, got {held}"
  | .bigEndian => "big-endian MRC files are not supported"
  | .dimensions dims => "invalid MRC dimensions (nz, ny, nx) = " ++ intListText dims
  | .unknownMode code => s!"unsupported MRC mode {code}"
  | .tooLarge dims =>
    "MRC dimensions (nz, ny, nx) = " ++ listText dims ++ " exceed addressable size"
  | .dataTooShort needed held => s!"MRC data needs {needed} bytes, file holds {held}"
  | .shape cause => "MRC data cannot be shaped: " ++ cause.message
  | .rank axes => s!"cannot write a {axes}-dimensional array as MRC"

end DetectorScan
