import DetectorScan.PartitionPlan
import DetectorScan.Proofs.Attempts
import DetectorScan.Proofs.Spans

/-!
# The partitions of a plan

A plan that fits into memory has as many partitions as are asked for, and they lie one
behind the other over all frames.
-/

namespace DetectorScan

/-- Partition `i` of `count` over `total` frames. -/
def planned (total count : Nat) (signal : List Nat) (i : Nat) : PartitionSpec :=
  let start := i * (total / count)
  let stop := if i + 1 = count then total else start + total / count
  ⟨.frames start (stop - start) signal, start, stop⟩

theorem planned_bounds (total : Nat) {count i : Nat} (signal : List Nat) (hi : i < count) :
    (planned total count signal i).start ≤ (planned total count signal i).stop ∧
      (planned total count signal i).stop ≤ total := by
  have hall : count * (total / count) ≤ total := Nat.mul_div_le total count
  have hpart : (i + 1) * (total / count) ≤ count * (total / count) :=
    Nat.mul_le_mul_right _ hi
  rw [Nat.add_mul, Nat.one_mul] at hpart
  simp only [planned]
  generalize total / count = length at *
  split <;> omega

theorem nth_eq_planned {total count i : Nat} (signal : List Nat) (hi : i < count)
    (hcount : count < wordLimit) (htotal : total < wordLimit) :
    PartitionSpec.nth total count (total / count) signal i =
      .ok (planned total count signal i) := by
  have hb := planned_bounds total signal hi
  simp only [planned] at hb
  have hstart : i * (total / count) < wordLimit := by omega
  simp only [PartitionSpec.nth, planned, Word.mul_of_lt hstart,
    Word.add_of_lt (show i + 1 < wordLimit by omega), ok_bind]
  by_cases hlast : i + 1 = count
  · simp only [hlast, if_true, pure, Except.pure, ok_bind] at hb ⊢
    rw [Word.sub_of_le hb.1]
    rfl
  · simp only [hlast, if_false] at hb ⊢
    rw [Word.add_of_lt (show i * (total / count) + total / count < wordLimit by omega),
      ok_bind, Word.sub_of_le hb.1]
    rfl

/-- A plan is made exactly when its entries fit into memory. -/
theorem planPartitions_eq {total : Nat} (count : Nat) (signal : List Nat)
    (htotal : total < wordLimit) :
    planPartitions total count signal =
      if maxObjectSize < max count 1 * partitionSpecSize then .error .overflow
      else .ok ((List.range (max count 1)).map (planned total (max count 1) signal)) := by
  simp only [planPartitions]
  split
  · next hlarge =>
    rw [Growth.reserve_of_not_holds (mt Growth.holds_atOnce.1 (Nat.not_le.2 hlarge))]
    rfl
  · next hfit =>
    have hword : maxObjectSize < wordLimit := by decide
    rw [Growth.reserve_of_holds (Growth.holds_atOnce.2 (Nat.le_of_not_lt hfit)), ok_bind]
    rw [show partitionSpecSize = 72 from rfl] at hfit
    refine mapM_eq_ok fun i hi => ?_
    exact nth_eq_planned signal (List.mem_range.1 hi) (by omega) htotal

theorem span_planned (total count : Nat) (signal : List Nat) (i : Nat) :
    (planned total count signal i).span =
      ⟨i * (total / count),
        if i + 1 = count then total else (i + 1) * (total / count)⟩ := by
  simp only [planned, PartitionSpec.span, Nat.add_mul, Nat.one_mul]

theorem contiguous_planned_from (total : Nat) {count : Nat} (signal : List Nat) {i k : Nat}
    (h : i + k + 1 = count) :
    Contiguous (i * (total / count))
      (((List.range' i (k + 1)).map (planned total count signal)).map (·.span)) total := by
  induction k generalizing i with
  | zero =>
    have hb := (planned_bounds total signal (show i < count by omega)).1
    refine ⟨rfl, hb, ?_⟩
    show (planned total count signal i).span.stop = total
    rw [span_planned, if_pos (show i + 1 = count from h)]
  | succ k ih =>
    have hb := (planned_bounds total signal (show i < count by omega)).1
    have hrest := ih (i := i + 1) (by omega)
    rw [List.range'_succ, List.map_cons, List.map_cons]
    refine ⟨rfl, hb, ?_⟩
    rw [span_planned, if_neg (by omega)]
    exact hrest

theorem contiguous_planned {total count : Nat} (signal : List Nat) (hcount : 0 < count) :
    Contiguous 0
      (((List.range count).map (planned total count signal)).map (·.span)) total := by
  obtain ⟨k, rfl⟩ : ∃ k, count = k + 1 := ⟨count - 1, by omega⟩
  have h := contiguous_planned_from total signal (Nat.zero_add (k + 1))
  rwa [Nat.zero_mul, ← List.range_eq_range'] at h

end DetectorScan
