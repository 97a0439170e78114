import DetectorScan.Proofs.ExactNumbers
import DetectorScan.Proofs.Planes
import DetectorScan.Run
import Mathlib.Algebra.Order.BigOperators.Group.List
import Mathlib.Data.List.GetD

/-!
# Totals that are merged in any order

Results are merged into an accumulator one after the other. One of another shape is refused,
also where its axes could be stretched, and has no effect on those that follow. The others
are added cell by cell, so that on integers of at most 24 bits the accumulator ends with the
same numbers, whatever the order.
-/

namespace DetectorScan

/-! ### Sums of integers -/

namespace Binary32

/-- The number that a pattern stands for, where it stands for one. -/
def number (x : Binary32) : ℚ :=
  x.value?.getD 0

def IsInteger (x : Binary32) : Prop :=
  ∃ i : Int, x.value? = some (i : ℚ)

theorem isInteger_ofInt {i : Int} (h : i.natAbs ≤ 2 ^ 24) : (ofInt i).IsInteger :=
  ⟨i, value?_ofInt h⟩

theorem IsInteger.value?_eq {x : Binary32} (h : x.IsInteger) : x.value? = some x.number := by
  obtain ⟨i, hi⟩ := h
  rw [number, hi]
  rfl

theorem IsInteger.value?_add {x y : Binary32} (hx : x.IsInteger) (hy : y.IsInteger)
    (h : |x.number| + |y.number| ≤ 2 ^ 24) :
    (x + y).IsInteger ∧ (x + y).number = x.number + y.number := by
  obtain ⟨i, hi⟩ := hx
  obtain ⟨j, hj⟩ := hy
  have hxi : x.number = i := by rw [number, hi]; rfl
  have hyj : y.number = j := by rw [number, hj]; rfl
  have hbound : (i + j).natAbs ≤ 2 ^ 24 := by
    rw [hxi, hyj] at h
    have hsum : |(i + j : ℚ)| ≤ 2 ^ 24 := (abs_add_le _ _).trans h
    have hint : |i + j| ≤ 2 ^ 24 := by exact_mod_cast hsum
    rw [Int.abs_eq_natAbs] at hint
    exact_mod_cast hint
  have hadd := Binary32.value?_add hi hj hbound
  refine ⟨⟨i + j, hadd⟩, ?_⟩
  rw [number, hadd, hxi, hyj]
  push_cast
  rfl

theorem value?_foldl_add {xs : List Binary32} {x : Binary32}
    (hint : ∀ y ∈ x :: xs, y.IsInteger)
    (hsum : ((x :: xs).map fun y => |y.number|).sum ≤ 2 ^ 24) :
    (xs.foldl (· + ·) x).value? = some (x.number + (xs.map number).sum) := by
  induction xs generalizing x with
  | nil =>
    have hx := (hint x (List.mem_cons_self ..)).value?_eq
    simpa using hx
  | cons y ys ih =>
    obtain ⟨hx, hrest⟩ := List.forall_mem_cons.1 hint
    obtain ⟨hy, hys⟩ := List.forall_mem_cons.1 hrest
    simp only [List.map_cons, List.sum_cons] at hsum ih ⊢
    have hnonneg : 0 ≤ (ys.map fun y => |y.number|).sum := by
      refine List.sum_nonneg ?_
      intro q hq
      obtain ⟨y, _, rfl⟩ := List.mem_map.1 hq
      exact abs_nonneg _
    obtain ⟨hxy, hadd⟩ := hx.value?_add hy (by linarith)
    have hnext : |(x + y).number| ≤ |x.number| + |y.number| := hadd ▸ abs_add_le _ _
    rw [List.foldl_cons, ih (List.forall_mem_cons.2 ⟨hxy, hys⟩) (by linarith), hadd, add_assoc]

end Binary32

/-! ### Merging -/

/-- Merges results one after the other, whether or not they are refused: what the
accumulator holds at the end, and how each result fared. -/
def mergeEach (accumulator : Grid Binary32) :
    List (Grid Binary32) → Grid Binary32 × List (Except JobError Unit)
  | [] => (accumulator, [])
  | result :: rest =>
    let first := mergeResult result accumulator
    let others := mergeEach first.1 rest
    (others.1, first.2 :: others.2)

/-- How merging a result into an accumulator of a shape ends. -/
def mergeOutcome (shape : List Nat) (result : Grid Binary32) : Except JobError Unit :=
  if result.shape = shape then .ok () else .error (.resultShape shape result.shape)

variable {accumulator result : Grid Binary32} {results : List (Grid Binary32)}

theorem mergeResult_eq (accumulator result : Grid Binary32) :
    mergeResult result accumulator =
      (accumulator.combine (· + ·) result, mergeOutcome accumulator.shape result) := by
  by_cases h : accumulator.shape = result.shape
  · rw [mergeResult, dif_pos h, Grid.combine, dif_pos h, mergeOutcome, if_pos h.symm]
  · rw [mergeResult, dif_neg h, Grid.combine, dif_neg h, mergeOutcome, if_neg (Ne.symm h)]

theorem mergeEach_eq (accumulator : Grid Binary32) (results : List (Grid Binary32)) :
    mergeEach accumulator results =
      (results.foldl (Grid.combine (· + ·)) accumulator,
        results.map (mergeOutcome accumulator.shape)) := by
  induction results generalizing accumulator with
  | nil => rfl
  | cons result rest ih =>
    rw [mergeEach, mergeResult_eq, ih, Grid.shape_combine, List.foldl_cons, List.map_cons]

theorem mergeOutcomes_map_ok (accumulator : Grid Binary32) (results : List (Grid Binary32)) :
    mergeOutcomes accumulator (results.map .ok) =
      match results.find? (·.shape ≠ accumulator.shape) with
      | none => .ok (mergeEach accumulator results).1
      | some result => .error (.resultShape accumulator.shape result.shape) := by
  induction results generalizing accumulator with
  | nil => rfl
  | cons result rest ih =>
    rw [List.map_cons, mergeOutcomes, ok_bind, mergeEach, mergeResult_eq, mergeOutcome]
    by_cases h : result.shape = accumulator.shape
    · rw [if_pos h, List.find?_cons_of_neg (by simp [h])]
      exact (ih _).trans (by rw [Grid.shape_combine])
    · rw [if_neg h, List.find?_cons_of_pos (by simpa using h)]
      rfl

namespace Grid

variable {α : Type} {f : α → α → α}

theorem shape_foldl_combine (g : Grid α) (gs : List (Grid α)) :
    (gs.foldl (combine f) g).shape = g.shape := by
  induction gs generalizing g with
  | nil => rfl
  | cons h gs ih => rw [List.foldl_cons, ih, shape_combine]

theorem combine_of_shape_ne {g h : Grid α} (hshape : h.shape ≠ g.shape) : g.combine f h = g :=
  dif_neg hshape.symm

/-- Only grids of the shape of the first have an effect on it. -/
theorem foldl_combine_filter (g : Grid α) (gs : List (Grid α)) :
    (gs.filter (·.shape = g.shape)).foldl (combine f) g = gs.foldl (combine f) g := by
  induction gs generalizing g with
  | nil => rfl
  | cons h gs ih =>
    have hrest := ih (g.combine f h)
    rw [shape_combine] at hrest
    by_cases hshape : h.shape = g.shape
    · rw [List.filter_cons_of_pos (by simpa using hshape), List.foldl_cons, List.foldl_cons,
        hrest]
    · rw [combine_of_shape_ne hshape] at hrest
      rw [List.filter_cons_of_neg (by simpa using hshape), List.foldl_cons,
        combine_of_shape_ne hshape, hrest]

theorem getD_combine {g h : Grid α} (hshape : h.shape = g.shape) {k : Nat}
    (hk : k < volume g.shape) (a : α) :
    (g.combine f h).cells.getD k a = f (g.cells.getD k a) (h.cells.getD k a) := by
  have hg : k < g.cells.length := by rwa [g.length_cells]
  have hh : k < h.cells.length := by rwa [h.length_cells, hshape]
  have hboth : k < (List.zipWith f g.cells h.cells).length := by
    rw [List.length_zipWith]
    omega
  rw [combine, dif_pos hshape.symm, zipWith, List.getD_eq_getElem _ _ hboth,
    List.getElem_zipWith, List.getD_eq_getElem _ _ hg, List.getD_eq_getElem _ _ hh]

theorem getD_foldl_combine {g : Grid α} {gs : List (Grid α)}
    (hshape : ∀ h ∈ gs, h.shape = g.shape) {k : Nat} (hk : k < volume g.shape) (a : α) :
    (gs.foldl (combine f) g).cells.getD k a =
      (gs.map fun h => h.cells.getD k a).foldl f (g.cells.getD k a) := by
  induction gs generalizing g with
  | nil => rfl
  | cons h gs ih =>
    obtain ⟨hh, hrest⟩ := List.forall_mem_cons.1 hshape
    rw [List.foldl_cons, ih (by rwa [shape_combine]) (by rwa [shape_combine]),
      getD_combine hh hk, List.map_cons, List.foldl_cons]

end Grid

/-! ### Numbers of cells -/

/-- The number in a cell. -/
def Grid.numberAt (g : Grid Binary32) (k : Nat) : ℚ :=
  (g.cells.getD k .zero).number

theorem numberAt_filled {shape : List Nat} {i : Int} (h : i.natAbs ≤ 2 ^ 24) {k : Nat}
    (hk : k < volume shape) : (Grid.filled shape (Binary32.ofInt i)).numberAt k = i := by
  have hlength : k < (Grid.filled shape (Binary32.ofInt i)).cells.length := by
    rwa [Grid.length_cells]
  rw [Grid.numberAt, List.getD_eq_getElem _ _ hlength, Binary32.number]
  simp [Grid.filled, Binary32.value?_ofInt h]

theorem isInteger_of_mem_filled {shape : List Nat} {i : Int} (h : i.natAbs ≤ 2 ^ 24)
    {cell : Binary32} (hcell : cell ∈ (Grid.filled shape (.ofInt i)).cells) : cell.IsInteger := by
  rw [List.eq_of_mem_replicate hcell]
  exact Binary32.isInteger_ofInt h

/-- The results that have the shape of an accumulator. -/
def fitting (accumulator : Grid Binary32) (results : List (Grid Binary32)) :
    List (Grid Binary32) :=
  results.filter (·.shape = accumulator.shape)

/-- The accumulator and the results of its shape hold integers, and no cell of them together
more than 24 bits. -/
structure Addable (accumulator : Grid Binary32) (results : List (Grid Binary32)) : Prop where
  integers : ∀ g ∈ accumulator :: fitting accumulator results, ∀ cell ∈ g.cells, cell.IsInteger
  sum_le : ∀ k < volume accumulator.shape,
    ((accumulator :: fitting accumulator results).map fun g => |g.numberAt k|).sum ≤ 2 ^ 24

theorem Addable.perm {others : List (Grid Binary32)} (h : Addable accumulator results)
    (hperm : others.Perm results) : Addable accumulator others := by
  have hfitting : (fitting accumulator others).Perm (fitting accumulator results) :=
    hperm.filter _
  refine ⟨fun g hg => h.integers g ((hfitting.cons _).mem_iff.1 hg), fun k hk => ?_⟩
  rw [((hfitting.cons _).map _).sum_eq]
  exact h.sum_le k hk

theorem Addable.value?_foldl_combine (h : Addable accumulator results) {k : Nat}
    (hk : k < volume accumulator.shape) :
    ∃ cell, (results.foldl (Grid.combine (· + ·)) accumulator).cells[k]? = some cell ∧
      cell.value? = some (accumulator.numberAt k +
        ((fitting accumulator results).map (·.numberAt k)).sum) := by
  have hshape : ∀ g ∈ fitting accumulator results, g.shape = accumulator.shape := by
    intro g hg
    simpa using (List.mem_filter.1 hg).2
  have hcell : ∀ g ∈ accumulator :: fitting accumulator results,
      (g.cells.getD k .zero).IsInteger := by
    intro g hg
    have hlength : k < g.cells.length := by
      rw [g.length_cells]
      obtain rfl | hg := List.mem_cons.1 hg
      · exact hk
      · rwa [hshape g hg]
    rw [List.getD_eq_getElem _ _ hlength]
    exact h.integers g hg _ (List.getElem_mem hlength)
  have hsum := h.sum_le k hk
  have hfold : results.foldl (Grid.combine (· + ·)) accumulator =
      (fitting accumulator results).foldl (Grid.combine (· + ·)) accumulator :=
    (Grid.foldl_combine_filter accumulator results).symm
  have htotal : k < (results.foldl (Grid.combine (· + ·)) accumulator).cells.length := by
    rwa [Grid.length_cells, Grid.shape_foldl_combine]
  have hbound : (((accumulator :: fitting accumulator results).map fun g =>
      g.cells.getD k .zero).map fun cell => |cell.number|).sum ≤ 2 ^ 24 := by
    rw [List.map_map]
    exact hsum
  have hadd := Binary32.value?_foldl_add (List.forall_mem_map.2 hcell) hbound
  refine ⟨_, List.getElem?_eq_getElem htotal, ?_⟩
  rw [← List.getD_eq_getElem _ Binary32.zero htotal, hfold, Grid.getD_foldl_combine hshape hk,
    hadd, List.map_map]
  rfl

/-! ### The result -/

/-- Results of another shape are refused and leave the accumulator as it is, wherever they
stand in the row, and where the others hold integers of at most 24 bits, the accumulator
ends with the same numbers in whatever order they are merged. A job stops at the first
refusal instead. -/
theorem merged_results_add_up_in_any_order (accumulator : Grid Binary32)
    (results : List (Grid Binary32)) :
    (∀ order, (mergeEach accumulator order).1.shape = accumulator.shape ∧
      (mergeEach accumulator order).2 = order.map fun result =>
        if result.shape = accumulator.shape then .ok ()
        else .error (.resultShape accumulator.shape result.shape)) ∧
    (∀ order : List (Grid Binary32), mergeOutcomes accumulator (order.map .ok) =
      match order.find? (·.shape ≠ accumulator.shape) with
      | none => .ok (mergeEach accumulator order).1
      | some result => .error (.resultShape accumulator.shape result.shape)) ∧
    (∀ before result, result.shape ≠ accumulator.shape →
      mergeResult result (mergeEach accumulator before).1 =
        ((mergeEach accumulator before).1,
          .error (.resultShape accumulator.shape result.shape))) ∧
    (Addable accumulator results → ∀ order, order.Perm results →
      ∀ k < volume accumulator.shape,
        ∃ cell, (mergeEach accumulator order).1.cells[k]? = some cell ∧
          cell.value? = some (accumulator.numberAt k +
            ((fitting accumulator results).map (·.numberAt k)).sum)) := by
  have hshape : ∀ order, (mergeEach accumulator order).1.shape = accumulator.shape := by
    intro order
    rw [mergeEach_eq, Grid.shape_foldl_combine]
  refine ⟨?_, mergeOutcomes_map_ok accumulator, ?_, ?_⟩
  · intro order
    refine ⟨hshape order, ?_⟩
    rw [mergeEach_eq]
    rfl
  · intro before result hother
    have hne : result.shape ≠ (mergeEach accumulator before).1.shape := by rwa [hshape]
    rw [mergeResult_eq, Grid.combine_of_shape_ne hne, mergeOutcome, if_neg hne, hshape]
  · intro h order hperm k hk
    have hfitting : (fitting accumulator order).Perm (fitting accumulator results) :=
      hperm.filter _
    have hsum := (hfitting.map fun g => g.numberAt k).sum_eq
    rw [mergeEach_eq, ← hsum]
    exact (h.perm hperm).value?_foldl_combine hk

/-- Two planes of two rows and one of a single row between them. -/
def planesAndRow : List (Grid Binary32) :=
  [.filled [2, 2] (.ofInt 5), .filled [1, 2] (.ofInt 7), .filled [2, 2] (.ofInt (-3))]

theorem planes_add_up_around_a_row :
    Addable (.filled [2, 2] (.ofInt 1)) planesAndRow ∧
      planesAndRow.reverse.Perm planesAndRow ∧
      [1, 2] ≠ [2, 2] ∧
      mergeResult (.filled [1, 2] (.ofInt 7)) (.filled [2, 2] (.ofInt 1)) =
        (.filled [2, 2] (.ofInt 1), .error (.resultShape [2, 2] [1, 2])) ∧
      (mergeEach (.filled [2, 2] (.ofInt 1)) planesAndRow.reverse).2 =
        [.ok (), .error (.resultShape [2, 2] [1, 2]), .ok ()] ∧
      ∀ k < 4, ∃ cell,
        (mergeEach (.filled [2, 2] (.ofInt 1)) planesAndRow.reverse).1.cells[k]? = some cell ∧
          cell.value? = some 3 := by
  have hfitting : fitting (.filled [2, 2] (.ofInt 1)) planesAndRow =
      [.filled [2, 2] (.ofInt 5), .filled [2, 2] (.ofInt (-3))] := rfl
  have hnumber : ∀ i : Int, i.natAbs ≤ 2 ^ 24 → ∀ k < 4,
      (Grid.filled [2, 2] (Binary32.ofInt i)).numberAt k = i := fun i hi k hk =>
    numberAt_filled hi hk
  have haddable : Addable (.filled [2, 2] (.ofInt 1)) planesAndRow := by
    refine ⟨?_, ?_⟩
    · rw [hfitting]
      intro g hg cell hcell
      simp only [List.mem_cons, List.not_mem_nil, or_false] at hg
      obtain rfl | rfl | rfl := hg
      · exact isInteger_of_mem_filled (by decide) hcell
      · exact isInteger_of_mem_filled (by decide) hcell
      · exact isInteger_of_mem_filled (by decide) hcell
    · intro k hk
      simp only [hfitting, List.map_cons, List.map_nil, List.sum_cons, List.sum_nil]
      rw [hnumber 1 (by decide) k hk, hnumber 5 (by decide) k hk, hnumber (-3) (by decide) k hk]
      norm_num
  obtain ⟨hends, -, hrefused, hsum⟩ :=
    merged_results_add_up_in_any_order (.filled [2, 2] (.ofInt 1)) planesAndRow
  have hne : [1, 2] ≠ [2, 2] := by decide
  refine ⟨haddable, planesAndRow.reverse_perm, hne, hrefused [] _ hne, (hends _).2, ?_⟩
  intro k hk
  obtain ⟨cell, hcell, hvalue⟩ := hsum haddable _ planesAndRow.reverse_perm k hk
  refine ⟨cell, hcell, ?_⟩
  simp only [hfitting, List.map_cons, List.map_nil, List.sum_cons, List.sum_nil] at hvalue
  rw [hvalue, hnumber 1 (by decide) k hk, hnumber 5 (by decide) k hk,
    hnumber (-3) (by decide) k hk]
  norm_num

end DetectorScan
