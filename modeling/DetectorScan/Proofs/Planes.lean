import DetectorScan.FrameSum
import DetectorScan.Proofs.Attempts

/-!
# Planes cell by cell

A grid is the table of its cells in row-major order. What the library does with whole
planes, it does to each cell by itself: adding frames, adding a plane to all of another,
and taking the layers of a stack apart.
-/

namespace DetectorScan

variable {α β γ ι : Type}

/-! ### Lists of one length in a row -/

theorem getElem?_flatMap_of_length {f : α → List β} {size : Nat} {xs : List α}
    (hf : ∀ x ∈ xs, (f x).length = size) {i j : Nat} (hj : j < size) :
    (xs.flatMap f)[i * size + j]? = xs[i]?.bind fun x => (f x)[j]? := by
  induction xs generalizing i with
  | nil => rfl
  | cons x rest ih =>
    obtain ⟨hx, hrest⟩ := List.forall_mem_cons.1 hf
    rw [List.flatMap_cons]
    cases i with
    | zero =>
      rw [Nat.zero_mul, Nat.zero_add, List.getElem?_append_left (by omega)]
      rfl
    | succ i =>
      have hindex : (i + 1) * size + j - size = i * size + j := by
        rw [Nat.add_mul]
        omega
      rw [List.getElem?_append_right (by rw [Nat.add_mul]; omega), hx, hindex, ih hrest]
      rfl

theorem length_flatMap_of_length {f : α → List β} {size : Nat} {xs : List α}
    (hf : ∀ x ∈ xs, (f x).length = size) : (xs.flatMap f).length = xs.length * size := by
  rw [List.length_flatMap, List.map_congr_left (g := fun _ => size) hf, List.map_const',
    List.sum_replicate_nat]

namespace Grid

theorem eq_of_cells {a b : Grid α} (hs : a.shape = b.shape) (hc : a.cells = b.cells) :
    a = b := by
  cases a
  cases b
  cases hs
  cases hc
  rfl

/-- The grid of a shape with a value for the number of each cell. -/
def tabulate (shape : List Nat) (v : Nat → α) : Grid α :=
  ⟨shape, (List.range (volume shape)).map v, by simp⟩

theorem tabulate_congr {shape : List Nat} {u v : Nat → α}
    (h : ∀ k < volume shape, u k = v k) : tabulate shape u = tabulate shape v :=
  eq_of_cells rfl (List.map_congr_left fun k hk => h k (List.mem_range.1 hk))

theorem getElem?_tabulate {shape : List Nat} (v : Nat → α) {k : Nat} (hk : k < volume shape) :
    (tabulate shape v).cells[k]? = some (v k) := by
  simp [tabulate, hk]

theorem eq_tabulate (g : Grid α) (a : α) :
    g = tabulate g.shape fun k => g.cells.getD k a := by
  refine eq_of_cells rfl (List.ext_getElem ?_ fun k hk _ => ?_)
  · simp [tabulate, g.length_cells]
  · simp [tabulate, List.getElem?_eq_getElem hk]

theorem filled_eq_tabulate (shape : List Nat) (a : α) :
    filled shape a = tabulate shape fun _ => a := by
  refine eq_of_cells rfl ?_
  simp [filled, tabulate, List.map_const']

theorem zipWith_tabulate (f : α → β → γ) (shape : List Nat) (u : Nat → α) (v : Nat → β)
    (h : (tabulate shape u).shape = (tabulate shape v).shape) :
    (tabulate shape u).zipWith f (tabulate shape v) h = tabulate shape fun k => f (u k) (v k) := by
  refine eq_of_cells rfl ?_
  simp [Grid.zipWith, tabulate, List.zipWith_map, List.zipWith_self]

theorem zipWith_tabulate_left (f : α → β → γ) {shape : List Nat} (v : Nat → α) {g : Grid β}
    (b : β) (h : (tabulate shape v).shape = g.shape) :
    (tabulate shape v).zipWith f g h =
      tabulate shape fun k => f (v k) (g.cells.getD k b) := by
  have hlen : g.cells.length = volume shape := g.length_cells.trans (congrArg volume h.symm)
  refine eq_of_cells rfl (List.ext_getElem ?_ fun k hk _ => ?_)
  · simp [Grid.zipWith, tabulate, hlen]
  · have hk' : k < g.cells.length := by
      rw [Grid.length_cells, Grid.shape_zipWith] at hk
      exact hlen ▸ hk
    simp [Grid.zipWith, tabulate, List.getElem?_eq_getElem hk']

theorem shape_combine (f : α → β → α) (a : Grid α) (b : Grid β) :
    (a.combine f b).shape = a.shape := by
  unfold combine
  split
  · rfl
  · rfl

theorem combine_tabulate (f : α → β → α) (shape : List Nat) (u : Nat → α) (v : Nat → β) :
    (tabulate shape u).combine f (tabulate shape v) = tabulate shape fun k => f (u k) (v k) := by
  have hshape : (tabulate shape u).shape = (tabulate shape v).shape := rfl
  rw [combine, dif_pos hshape, zipWith_tabulate]

/-! ### Layers -/

theorem split_flatMap (shape : List Nat) (v : ι → Nat → α) (xs : List ι)
    (h : (xs.flatMap fun x => (tabulate shape (v x)).cells).length =
      xs.length * volume shape) :
    split shape xs.length (xs.flatMap fun x => (tabulate shape (v x)).cells) h =
      xs.map fun x => tabulate shape (v x) := by
  induction xs with
  | nil => rfl
  | cons x xs ih =>
    have hx := (tabulate shape (v x)).length_cells
    have hvol : volume (tabulate shape (v x)).shape = volume shape := rfl
    rw [hvol] at hx
    have htake : ((x :: xs).flatMap fun x => (tabulate shape (v x)).cells).take (volume shape) =
        (tabulate shape (v x)).cells := List.take_left' hx
    have hdrop : ((x :: xs).flatMap fun x => (tabulate shape (v x)).cells).drop (volume shape) =
        xs.flatMap fun x => (tabulate shape (v x)).cells := List.drop_left' hx
    have hrest : (xs.flatMap fun x => (tabulate shape (v x)).cells).length =
        xs.length * volume shape := by
      rw [← hdrop, List.length_drop, h, List.length_cons, Nat.add_mul]
      omega
    simp only [List.length_cons, split, htake, hdrop, List.map_cons]
    rw [ih hrest]
    rfl

theorem layers_flatMap {shape : List Nat} {count : Nat} {cells : List α} {xs : List ι}
    (v : ι → Nat → α) (hcount : count = xs.length)
    (hcells : cells = xs.flatMap fun x => (tabulate shape (v x)).cells)
    (h : cells.length = volume (count :: shape)) :
    (Grid.mk (count :: shape) cells h).layers = xs.map fun x => tabulate shape (v x) := by
  subst hcount hcells
  exact split_flatMap shape v xs h

/-! ### Adding to all of a plane -/

theorem stretch_of_length {count : Nat} {xs : List α} (h : xs.length = count) :
    stretch count xs = xs := by
  subst h
  unfold stretch
  split <;> rfl

theorem overlay_zero (f : α → β → α) {xs : List α} {ys : List β}
    (h : xs.length = ys.length) : overlay f 0 xs ys = List.zipWith f xs ys := by
  simp [overlay, ← h]

theorem length_runs (size count : Nat) (cells : List α) :
    (runs size count cells).length = count := by
  induction count generalizing cells with
  | zero => rfl
  | succ count ih => simp [runs, ih]

theorem length_of_mem_runs {size count : Nat} {cells run : List α}
    (h : cells.length = count * size) (hrun : run ∈ runs size count cells) :
    run.length = size := by
  induction count generalizing cells with
  | zero => contradiction
  | succ count ih =>
    rw [Nat.add_mul, Nat.one_mul] at h
    rcases List.mem_cons.1 hrun with rfl | hrun
    · rw [List.length_take]
      omega
    · exact ih (by rw [List.length_drop]; omega) hrun

theorem flatten_overlay_runs (f : α → β → α) {size count : Nat} {xs : List α} {ys : List β}
    (hx : xs.length = count * size) (hy : ys.length = count * size) :
    (List.zipWith (overlay f 0) (runs size count xs) (runs size count ys)).flatten =
      List.zipWith f xs ys := by
  induction count generalizing xs ys with
  | zero =>
    rw [Nat.zero_mul, List.length_eq_zero_iff] at hx
    simp [runs, hx]
  | succ count ih =>
    rw [Nat.add_mul, Nat.one_mul] at hx hy
    have hx' : (xs.drop size).length = count * size := by
      rw [List.length_drop]
      omega
    have hy' : (ys.drop size).length = count * size := by
      rw [List.length_drop]
      omega
    have hrest := ih hx' hy'
    have hrow : (xs.take size).length = (ys.take size).length := by
      rw [List.length_take, List.length_take, hx, hy]
    rw [runs, runs, List.zipWith_cons_cons, List.flatten_cons, hrest, overlay_zero f hrow,
      ← List.take_zipWith, ← List.drop_zipWith, List.take_append_drop]

theorem spanOn_full {size : Nat} (h : size ≤ maxObjectSize) :
    spanOn size ⟨0, size⟩ = .ok ⟨0, size⟩ := by
  simp only [spanOn, boundOn, if_pos h, if_pos (Nat.zero_le _)]
  simp [bind, Except.bind, pure, Except.pure]

theorem combineBlock_full (f : α → β → α) {height width : Nat} {plane : Grid α}
    {block : Grid β} (hplane : plane.shape = [height, width])
    (hblock : block.shape = [height, width]) (hpos : 0 < height * width)
    (hheight : height ≤ maxObjectSize) (hwidth : width ≤ maxObjectSize) :
    plane.combineBlock f ⟨0, height⟩ ⟨0, width⟩ block =
      .ok (plane.zipWith f block (hplane.trans hblock.symm)) := by
  obtain ⟨_, xs, hx⟩ := plane
  obtain ⟨_, ys, hy⟩ := block
  cases hplane
  cases hblock
  have hx' : xs.length = height * width := by simpa [volume] using hx
  have hy' : ys.length = height * width := by simpa [volume] using hy
  have hnonempty : xs.isEmpty = false := by
    cases xs with
    | nil => rw [List.length_nil] at hx'; omega
    | cons => rfl
  have hrows : (runs width height ys).map (stretch width) = runs width height ys :=
    (List.map_congr_left fun _ hrow => stretch_of_length (length_of_mem_runs hy' hrow)).trans
      (List.map_id _)
  have hstretch : stretch height (runs width height ys) = runs width height ys :=
    stretch_of_length (length_runs ..)
  have hflat : (overlay (overlay f 0) 0 (runs width height xs) (runs width height ys)).flatten =
      List.zipWith f xs ys := by
    rw [overlay_zero _ (by rw [length_runs, length_runs])]
    exact flatten_overlay_runs f hx' hy'
  have hcells : ofCells? [height, width] (List.zipWith f xs ys) =
      some (zipWith f ⟨_, xs, hx⟩ ⟨_, ys, hy⟩ rfl) := ofCells?_eq_some.2 ⟨rfl, rfl⟩
  simp only [combineBlock, spanOn_full hheight, spanOn_full hwidth, ok_bind]
  rw [if_neg (by simp [Fits])]
  simp only [rows, Nat.sub_zero, hrows, hstretch, hflat, hnonempty, hcells]
  rfl

end Grid

end DetectorScan
