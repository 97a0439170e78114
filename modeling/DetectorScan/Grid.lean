import DetectorScan.Memory
import DetectorScan.Shape

/-!
# Grids of cells

A `Grid` is an array of any rank: the lengths of its axes and its cells in row-major
order, as many as the axes span. A rank of zero has one cell.
-/

namespace DetectorScan

inductive ShapeFault where
  | overflow
  | outOfBounds
  | incompatible
  deriving DecidableEq, Repr

def ShapeFault.message : ShapeFault → String
  | .overflow => "ShapeError/Overflow: arithmetic overflow"
  | .outOfBounds => "ShapeError/OutOfBounds: out of bounds indexing"
  | .incompatible => "ShapeError/IncompatibleShape: incompatible shapes"

structure Grid (α : Type) where
  shape : List Nat
  cells : List α
  length_cells : cells.length = volume shape
  deriving DecidableEq, Repr

namespace Grid

variable {α β γ : Type}

/-- Whether the axes that are not empty span no more than an object can. An empty axis
hides no other. -/
def Addressable (shape : List Nat) : Prop :=
  volume (shape.filter (· ≠ 0)) ≤ maxObjectSize

instance (shape : List Nat) : Decidable (Addressable shape) :=
  inferInstanceAs (Decidable (_ ≤ _))

def shaped (shape : List Nat) (cells : List α) : Except ShapeFault (Grid α) :=
  if ¬ Addressable shape then .error .overflow
  else if cells.length < volume shape then .error .outOfBounds
  else if h : cells.length = volume shape then .ok ⟨shape, cells, h⟩
  else .error .incompatible

/-- The grid of a shape with these cells, if there are as many as the axes span. -/
def ofCells? (shape : List Nat) (cells : List α) : Option (Grid α) :=
  if h : cells.length = volume shape then some ⟨shape, cells, h⟩ else none

def filled (shape : List Nat) (value : α) : Grid α :=
  ⟨shape, List.replicate (volume shape) value, List.length_replicate⟩

/-- A new grid in memory, where a cell takes `cellSize` bytes. -/
def allocate (shape : List Nat) (cellSize : Nat) (value : α) : Checked (Grid α) := do
  if ¬ Addressable shape then throw .overflow
  Growth.atOnce.reserve cellSize (volume shape)
  return filled shape value

def map (f : α → β) (g : Grid α) : Grid β :=
  ⟨g.shape, g.cells.map f, by rw [List.length_map, g.length_cells]⟩

def zipWith (f : α → β → γ) (a : Grid α) (b : Grid β) (h : a.shape = b.shape) : Grid γ :=
  ⟨a.shape, List.zipWith f a.cells b.cells, by
    rw [List.length_zipWith, a.length_cells, b.length_cells, h, Nat.min_self]⟩

/-- Two grids cell by cell; the first as it is where the shapes differ. -/
def combine (f : α → β → α) (a : Grid α) (b : Grid β) : Grid α :=
  if h : a.shape = b.shape then a.zipWith f b h else a

/-! ### Layers -/

def runs (size : Nat) : (count : Nat) → List α → List (List α)
  | 0, _ => []
  | count + 1, cells => cells.take size :: runs size count (cells.drop size)

/-- `count` grids of one shape from their cells in a row. -/
def split (shape : List Nat) : (count : Nat) → (cells : List α) →
    cells.length = count * volume shape → List (Grid α)
  | 0, _, _ => []
  | count + 1, cells, h =>
    ⟨shape, cells.take (volume shape), by
      rw [List.length_take, h, Nat.add_mul]; omega⟩ ::
      split shape count (cells.drop (volume shape)) (by
        rw [List.length_drop, h, Nat.add_mul]; omega)

/-- The grids along the first axis; a grid of rank zero has none. -/
def layers : Grid α → List (Grid α)
  | ⟨[], _, _⟩ => []
  | ⟨count :: shape, cells, h⟩ => split shape count cells h

theorem shape_of_mem_split {shape : List Nat} {count : Nat} {cells : List α}
    {h : cells.length = count * volume shape} {g : Grid α} (hg : g ∈ split shape count cells h) :
    g.shape = shape := by
  induction count generalizing cells with
  | zero => simp [split] at hg
  | succ count ih =>
    simp only [split, List.mem_cons] at hg
    rcases hg with rfl | hg
    · rfl
    · exact ih hg

theorem length_split (shape : List Nat) (count : Nat) (cells : List α)
    (h : cells.length = count * volume shape) : (split shape count cells h).length = count := by
  induction count generalizing cells with
  | zero => rfl
  | succ count ih => simp [split, ih]

/-! ### Blocks of a plane -/

def rows (height width : Nat) (cells : List α) : List (List α) :=
  runs width height cells

/-- Whether an axis of length `size` can be stretched to `count`. -/
def Fits (size count : Nat) : Prop :=
  size = count ∨ size = 1

instance (size count : Nat) : Decidable (Fits size count) :=
  inferInstanceAs (Decidable (_ ∨ _))

/-- A single entry again and again, `count` times; any other list as it is. -/
def stretch (count : Nat) : List α → List α
  | [x] => List.replicate count x
  | xs => xs

/-- Combines a list with what lies from `start` on in another. -/
def overlay (f : α → β → α) (start : Nat) (xs : List α) (ys : List β) : List α :=
  xs.take start ++ List.zipWith f ((xs.drop start).take ys.length) ys ++
    xs.drop (start + ys.length)

/-- Where a bound lies on an axis of length `size`. One that is too large for any object
counts back from the end of the axis. -/
def boundOn (size bound : Nat) : Checked Nat :=
  if bound ≤ maxObjectSize then .ok bound else Word.sub size (wordLimit - bound)

/-- The part of an axis of length `size` between bounds; nothing where they are crossed.
It has to lie on the axis. -/
def spanOn (size : Nat) (bounds : Span) : Checked Span := do
  let start ← boundOn size bounds.start
  let stop := max start (← boundOn size bounds.stop)
  if size < stop then throw .outOfRange
  return ⟨start, stop⟩

/-- Combines the block of a plane within the given bounds with a second plane, whose axes
of length one are stretched to the block. The block has to lie inside the plane, and the
second plane has to fit it. A plane without cells stays as it is. -/
def combineBlock (f : α → β → α) (plane : Grid α) (vertical horizontal : Span)
    (block : Grid β) : Checked (Grid α) := do
  let ([height, width], [blockHeight, blockWidth]) := (plane.shape, block.shape)
    | throw .outOfRange
  let vertical ← spanOn height vertical
  let horizontal ← spanOn width horizontal
  let blockSize := (vertical.stop - vertical.start, horizontal.stop - horizontal.start)
  if ¬ (Fits blockHeight blockSize.1 ∧ Fits blockWidth blockSize.2) then throw .outOfRange
  if plane.cells.isEmpty then return plane
  let blockRows := stretch blockSize.1
    ((rows blockHeight blockWidth block.cells).map (stretch blockSize.2))
  let combined := overlay (overlay f horizontal.start) vertical.start
    (rows height width plane.cells) blockRows
  match ofCells? plane.shape combined.flatten with
  | some g => return g
  | none => throw .outOfRange

/-! ### Small facts -/

theorem shape_zipWith (f : α → β → γ) (a : Grid α) (b : Grid β) (h : a.shape = b.shape) :
    (zipWith f a b h).shape = a.shape := rfl

theorem ofCells?_eq_some {shape : List Nat} {cells : List α} {g : Grid α} :
    ofCells? shape cells = some g ↔ g.shape = shape ∧ g.cells = cells := by
  constructor
  · intro h
    unfold ofCells? at h
    split at h
    · cases h; exact ⟨rfl, rfl⟩
    · contradiction
  · rintro ⟨rfl, rfl⟩
    simp [ofCells?, g.length_cells]

end Grid

end DetectorScan
