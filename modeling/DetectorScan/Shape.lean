import DetectorScan.Word

/-!
# Shapes and slices

A `Shape` lists the lengths of the axes of a dataset: first the scan (navigation) axes,
then the `signalRank` axes of one frame. A `Slice` is a block of a dataset, given by its
first corner and its shape. Both can be inconsistent when they were read from a text, so
splitting a shape and reading the bounds of a slice may fault.
-/

namespace DetectorScan

/-- The numbers from `start` up to, not including, `stop`. -/
structure Span where
  start : Nat
  stop : Nat
  deriving DecidableEq, Repr

def volume (dims : List Nat) : Nat :=
  dims.foldr (· * ·) 1

def listText (xs : List Nat) : String :=
  "[" ++ ", ".intercalate (xs.map toString) ++ "]"

structure Shape where
  dims : List Nat
  signalRank : Nat
  deriving DecidableEq, Repr

namespace Shape

def ofParts (navigation signal : List Nat) : Shape :=
  ⟨navigation ++ signal, signal.length⟩

def rank (s : Shape) : Nat :=
  s.dims.length

def navigationRank (s : Shape) : Checked Nat :=
  Word.sub s.rank s.signalRank

def navigation (s : Shape) : Checked Shape := do
  return ⟨s.dims.take (← s.navigationRank), 0⟩

def signal (s : Shape) : Checked Shape := do
  return ⟨s.dims.drop (← s.navigationRank), s.signalRank⟩

def size (s : Shape) : Checked Nat :=
  Word.product s.dims

def navigationSize (s : Shape) : Checked Nat := do
  Word.product (← s.navigation).dims

def signalSize (s : Shape) : Checked Nat := do
  Word.product (← s.signal).dims

def text (s : Shape) : String :=
  "(" ++ ", ".intercalate (s.dims.map toString) ++ ")"

theorem rank_ofParts (navigation signal : List Nat) :
    (ofParts navigation signal).rank = navigation.length + signal.length := by
  simp [rank, ofParts]

theorem navigationRank_ofParts (navigation signal : List Nat) :
    (ofParts navigation signal).navigationRank = .ok navigation.length := by
  simp [navigationRank, rank, ofParts, Word.sub]

theorem navigation_ofParts (navigation signal : List Nat) :
    (ofParts navigation signal).navigation = .ok ⟨navigation, 0⟩ := by
  unfold Shape.navigation
  rw [navigationRank_ofParts]
  simp [ofParts, bind, Except.bind, pure, Except.pure]

theorem signal_ofParts (navigation signal : List Nat) :
    (ofParts navigation signal).signal = .ok ⟨signal, signal.length⟩ := by
  unfold Shape.signal
  rw [navigationRank_ofParts]
  simp [ofParts, bind, Except.bind, pure, Except.pure]

end Shape

structure Slice where
  origin : List Nat
  shape : Shape
  deriving DecidableEq, Repr

namespace Slice

/-- Whole frames, `count` of them, from frame `start` on. -/
def frames (start count : Nat) (signal : List Nat) : Slice :=
  ⟨start :: List.replicate signal.length 0, .ofParts [count] signal⟩

def firstFrame (s : Slice) : Nat :=
  s.origin.headD 0

def frameCount (s : Slice) : Checked Nat :=
  s.shape.navigationSize

def frameSpan (s : Slice) : Checked Span := do
  return ⟨s.firstFrame, ← Word.add s.firstFrame (← s.frameCount)⟩

/-- The bounds along the axes of a frame. The origin needs an entry for every scan axis;
frame axes without one are left out. -/
def signalBounds (s : Slice) : Checked (List Span) := do
  let k ← s.shape.navigationRank
  if s.origin.length < k then throw .outOfRange
  ((s.origin.drop k).zip (s.shape.dims.drop k)).mapM fun (first, length) => do
    return ⟨first, ← Word.add first length⟩

theorem frameCount_frames (start count : Nat) (signal : List Nat) :
    (frames start count signal).frameCount = Word.product [count] := by
  unfold Slice.frameCount Shape.navigationSize frames
  rw [Shape.navigation_ofParts]
  rfl

theorem firstFrame_frames (start count : Nat) (signal : List Nat) :
    (frames start count signal).firstFrame = start := rfl

end Slice

end DetectorScan
