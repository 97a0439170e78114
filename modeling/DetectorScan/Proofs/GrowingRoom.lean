import DetectorScan.Memory
import DetectorScan.Proofs.Attempts
import Mathlib.Algebra.Group.Nat.Defs
import Mathlib.Data.List.TakeWhile

/-!
# Room that grows

Room that is doubled has a power of two of places. So the number of entries that can be stored
one by one is the largest power of two for which there can be room, whatever lies between it
and the next.
-/

namespace DetectorScan

namespace Growth

variable {size count k : Nat}

theorem capacity_doubling_le (hk : 2 ≤ k) (h : count ≤ 2 ^ k) :
    Growth.doubling.capacity count ≤ 2 ^ k := by
  cases count with
  | zero => exact Nat.zero_le _
  | succ last =>
    have hfour : 2 ^ 2 ≤ 2 ^ k := Nat.pow_le_pow_right (by decide) hk
    have hlog : last.log2 < k := by
      by_cases hzero : last = 0
      · rw [hzero, Nat.log2_zero]
        omega
      · exact (Nat.log2_lt hzero).2 h
    have hpower : 2 ^ (last.log2 + 1) ≤ 2 ^ k := Nat.pow_le_pow_right (by decide) hlog
    exact Nat.max_le.2 ⟨hfour, hpower⟩

theorem le_capacity_doubling (h : 2 ^ k < count) :
    2 ^ (k + 1) ≤ Growth.doubling.capacity count := by
  cases count with
  | zero => contradiction
  | succ last =>
    have hpos : 0 < 2 ^ k := Nat.pow_pos (by decide)
    have hlog : k ≤ last.log2 := (Nat.le_log2 (by omega)).2 (Nat.le_of_lt_succ h)
    have hpower : 2 ^ (k + 1) ≤ 2 ^ (last.log2 + 1) :=
      Nat.pow_le_pow_right (by decide) (Nat.succ_le_succ hlog)
    exact Nat.le_trans hpower (Nat.le_max_right ..)

theorem holds_doubling_iff (hk : 2 ≤ k) (hfits : 2 ^ k * size ≤ maxObjectSize)
    (hover : maxObjectSize < 2 ^ (k + 1) * size) :
    Growth.doubling.Holds size count ↔ count ≤ 2 ^ k := by
  constructor
  · intro h
    by_contra hcount
    have hlarge := Nat.mul_le_mul_right size (le_capacity_doubling (Nat.lt_of_not_le hcount))
    exact Nat.not_lt.2 (hlarge.trans h) hover
  · intro hcount
    exact (Nat.mul_le_mul_right size (capacity_doubling_le hk hcount)).trans hfits

end Growth

theorem collect_of_mapM {ε α β : Type} {f : α → Except ε β} {xs : List α} {ys : List β}
    (size : Nat) (h : xs.mapM f = .ok ys) :
    collect size f xs =
      if Growth.doubling.Holds size xs.length then .ok ys else .error (.fault .overflow) := by
  have hall : (xs.takeWhile fun x => (f x).isOk) = xs := by
    rw [List.takeWhile_eq_self_iff]
    intro x hx
    obtain ⟨y, -, hy⟩ := exists_of_mapM_eq_ok h hx
    rw [hy]
    rfl
  rw [collect, hall, h]
  split
  · next hholds => rw [Growth.reserve_of_holds hholds]; rfl
  · next hholds => rw [Growth.reserve_of_not_holds hholds]; rfl

end DetectorScan
