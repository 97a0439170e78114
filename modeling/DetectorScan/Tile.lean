import DetectorScan.FileDescriptor
import DetectorScan.ReadError

/-!
# Tiles

A tile is a run of frames of one file that is handed on as a whole. It knows where the
pixels of its first frame start and how far it is from one frame to the next, and gives
the pixels as bytes, as integers or as numbers of the 32-bit format.
-/

namespace DetectorScan

/-- The height and width under which a frame is seen as a plane: a frame of one axis is a
row, and so is one of any other number of axes than two. -/
def planeOf : List Nat → Checked (Nat × Nat)
  | [height, width] => return (height, width)
  | [width] => return (1, width)
  | signal => do return (1, ← Word.product signal)

structure Tile where
  slice : Slice
  element : ElementType
  content : FileContent
  /-- Where the pixels of the first frame start. -/
  offset : Nat
  stride : Nat
  frameBytes : Nat
  height : Nat
  width : Nat
  deriving DecidableEq, Repr

namespace Tile

def frameCount (t : Tile) : Checked Nat :=
  t.slice.frameCount

def payloadBytes (t : Tile) : Checked Nat := do
  Word.mul (← t.frameCount) t.frameBytes

/-- The bytes of frame `i` of the tile, if there is such a frame and the file holds it. -/
def payload (t : Tile) (i : Nat) : Checked (Option Bytes) := do
  if (← t.frameCount) ≤ i then return none
  let start ← Word.add t.offset (← Word.mul i t.stride)
  let stop ← Word.add start t.frameBytes
  return (t.content.range start stop).toOption

/-- The bytes of all frames that the file holds. -/
def payloads (t : Tile) : Checked (List Bytes) := do
  let found ← (List.range (← t.frameCount)).mapM t.payload
  return found.filterMap id

/-- Cells as frames of the tile, one behind the other. -/
def shaped {α : Type} (t : Tile) (cells : List α) : Attempt ReadError (Grid α) := do
  let frames ← t.frameCount
  Attempt.ofExcept ((Grid.shaped [frames, t.height, t.width] cells).mapError fun cause =>
    .config (.tileShape frames t.height t.width cause))

def decode (t : Tile) (element : ElementType) : Attempt ReadError (Grid Nat) := do
  if element ≠ t.element then Attempt.refuse (.elementType element t.element)
  Growth.atOnce.reserve t.element.size ((← t.payloadBytes) / t.element.size)
  let parts := (← t.payloads).flatMap (·.chunks t.element.size)
  let cells ← (parts.mapM element.first : Checked (List Nat))
  t.shaped cells

def reals (t : Tile) : Attempt ReadError (Grid Binary32) := do
  Growth.atOnce.reserve Binary32.size ((← t.payloadBytes) / t.element.size)
  t.shaped ((← t.payloads).flatMap t.element.reals)

def summary (t : Tile) : String :=
  "Tile \x7b slice: Slice \x7b origin: " ++ listText t.slice.origin ++
    ", shape: Shape \x7b dims: " ++ listText t.slice.shape.dims ++
    s!", sig_dims: {t.slice.shape.signalRank} \x7d \x7d, dtype: " ++ t.element.tag ++
    s!", offset: {t.offset}, stride: {t.stride}, .. \x7d"

end Tile

end DetectorScan
