import DetectorScan.Header.Field
import DetectorScan.Proofs.Utf16Texts
import Mathlib.Data.List.TakeWhile

/-!
# Texts that a block keeps

A text that is written to a block of a header comes back from it exactly when it fits the
block: it has no more units than the block, no zero character, which would end it, and no
byte order mark in front, which would be taken off.
-/

namespace DetectorScan.TextBlock

structure Fits (width : Nat) (s : String) : Prop where
  units_le : (Utf16.encode s.toList).length ≤ width / 2
  noNul : '\x00' ∉ s.toList
  noMark : s.toList.head? ≠ some '\uFEFF'
  noReversedMark : s.toList.head? ≠ some '\uFFFE'

theorem cut_append_zeros (us : List UInt16) (n : Nat) :
    cut (us ++ List.replicate n 0) = cut us := by
  have hzeros : (List.replicate n (0 : UInt16)).takeWhile (· ≠ 0) = [] := by
    cases n with
    | zero => rfl
    | succ n => simp [List.replicate_succ]
  rw [cut, cut, List.takeWhile_append, hzeros, List.append_nil]
  split
  next hlength => exact ((List.takeWhile_prefix _).eq_of_length hlength).symm
  next => rfl

theorem cut_eq_self_iff {us : List UInt16} : cut us = us ↔ 0 ∉ us := by
  rw [cut, List.takeWhile_eq_self_iff]
  constructor
  · intro h hzero
    exact of_decide_eq_true (h 0 hzero) rfl
  · intro h u hu
    exact decide_eq_true (ne_of_mem_of_not_mem hu h)

theorem length_normalize_le (us : List UInt16) : (normalize us).length ≤ us.length := by
  fun_cases normalize us with
  | case1 => exact Nat.le_refl _
  | case2 => simp
  | case3 => simp
  | case4 => exact Nat.le_refl _

theorem normalize_eq_self_iff {us : List UInt16} :
    normalize us = us ↔ us.head? ≠ some byteOrderMark ∧ us.head? ≠ some reversedMark := by
  fun_cases normalize us with
  | case1 => simp
  | case2 rest => simp
  | case3 rest hmark =>
    constructor
    · intro h
      simpa using congrArg List.length h
    · intro h
      exact absurd rfl h.2
  | case4 u rest hmark hreversed => simp [hmark, hreversed]

/-- The units of a block come back as they were exactly when none is cut off: at its end,
from its first zero on or in front. -/
theorem normalize_cut_take_eq_self_iff {us : List UInt16} {k : Nat} :
    normalize (cut (us.take k)) = us ↔
      us.length ≤ k ∧ 0 ∉ us ∧ us.head? ≠ some byteOrderMark ∧ us.head? ≠ some reversedMark := by
  constructor
  · intro h
    -- None of the three steps makes a text longer, so none of them makes this one shorter.
    have hnormal := length_normalize_le (cut (us.take k))
    have hcut : (cut (us.take k)).length ≤ (us.take k).length :=
      (List.takeWhile_prefix _).length_le
    have hk : us.length ≤ k := by
      rw [h] at hnormal
      rw [List.length_take] at hcut
      omega
    rw [List.take_of_length_le hk] at h hnormal hcut
    have hzero : cut us = us := by
      refine (List.takeWhile_prefix _).eq_of_length ?_
      rw [h] at hnormal
      exact Nat.le_antisymm hcut hnormal
    rw [hzero] at h
    exact ⟨hk, cut_eq_self_iff.1 hzero, normalize_eq_self_iff.1 h⟩
  · rintro ⟨hk, hzero, hmark⟩
    rw [List.take_of_length_le hk, cut_eq_self_iff.2 hzero, normalize_eq_self_iff.2 hmark]

theorem ofBytes_encode (width : Nat) (s : String) :
    Utf16.ofBytes (encode width s) = (Utf16.encode s.toList).take (width / 2) ++
      List.replicate
        ((width - 2 * ((Utf16.encode s.toList).take (width / 2)).length) / 2) 0 := by
  rw [encode, Utf16.ofBytes_toBytes_append, Utf16.ofBytes_zeros, Utf16.length_toBytes]

theorem decode_encode_iff {width : Nat} {s : String} :
    decode (encode width s) = some s ↔ Fits width s := by
  have hback : decode (encode width s) = some s ↔
      normalize (cut ((Utf16.encode s.toList).take (width / 2))) = Utf16.encode s.toList := by
    rw [decode, ofBytes_encode, cut_append_zeros, Option.map_eq_some_iff,
      ← Utf16.decode_eq_some_iff]
    constructor
    · rintro ⟨cs, hcs, rfl⟩
      rwa [String.toList_ofList] at hcs ⊢
    · intro h
      exact ⟨s.toList, h, String.ofList_toList⟩
  have hnul : 0 ∈ Utf16.encode s.toList ↔ '\x00' ∈ s.toList :=
    Utf16.mem_encode_iff (by decide) (by decide)
  have hmark : (Utf16.encode s.toList).head? = some byteOrderMark
      ↔ s.toList.head? = some '\uFEFF' :=
    Utf16.head?_encode_iff (by decide) (by decide)
  have hreversed : (Utf16.encode s.toList).head? = some reversedMark
      ↔ s.toList.head? = some '\uFFFE' :=
    Utf16.head?_encode_iff (by decide) (by decide)
  rw [hback, normalize_cut_take_eq_self_iff, hnul, ne_eq, ne_eq, hmark, hreversed]
  constructor
  · rintro ⟨hunits, hnul, hmark, hreversed⟩
    exact ⟨hunits, hnul, hmark, hreversed⟩
  · intro h
    exact ⟨h.units_le, h.noNul, h.noMark, h.noReversedMark⟩

example : decode (encode 24 "\uFEFFscan") = some "scan" := by cbv

end DetectorScan.TextBlock
