import DetectorScan.Binary32
import Mathlib.Algebra.Order.Field.Power
import Mathlib.Tactic.FieldSimp
import Mathlib.Tactic.Linarith
import Mathlib.Tactic.NormNum
import Mathlib.Tactic.Ring

/-!
# Integers as numbers of the 32-bit format

The pattern that a number is rounded to depends on its value alone, and an integer of at
most 24 bits is its own nearest pattern. Operations on integers whose result is such an
integer are therefore exact.
-/

namespace DetectorScan

/-- The value of a finite number. -/
def Datum.value? : Datum → Option ℚ
  | .finite negative m e => some (BinaryFormat.signed negative m * 2 ^ e)
  | _ => none

namespace BinaryFormat

variable {f : BinaryFormat}

/-! ### Rounding depends on the value -/

theorem shiftToNearest_mul_pow (m s t : Nat) :
    shiftToNearest (m * 2 ^ t) (s + t) = shiftToNearest m s := by
  have hpos : 0 < 2 ^ t := Nat.two_pow_pos t
  have hq : m * 2 ^ t / 2 ^ (s + t) = m / 2 ^ s := by
    rw [Nat.pow_add, Nat.mul_div_mul_right _ _ hpos]
  have hr : m * 2 ^ t % 2 ^ (s + t) = m % 2 ^ s * 2 ^ t := by
    rw [Nat.pow_add, Nat.mul_mod_mul_right]
  simp only [shiftToNearest, Nat.pow_eq, hq, hr]
  rw [Nat.pow_add, ← Nat.mul_assoc]
  simp only [Nat.mul_lt_mul_right hpos, Nat.mul_left_inj hpos.ne']

theorem shiftToNearest_exact (m s : Nat) : shiftToNearest (m * 2 ^ s) s = m := by
  have h := shiftToNearest_mul_pow m 0 s
  rw [Nat.zero_add] at h
  rw [h]
  simp [shiftToNearest, Nat.mod_one]

theorem log2_mul_pow {m : Nat} (hm : m ≠ 0) (t : Nat) : (m * 2 ^ t).log2 = m.log2 + t := by
  have hpos := Nat.two_pow_pos t
  have hne : m * 2 ^ t ≠ 0 := by positivity
  obtain ⟨hlow, hhigh⟩ := (Nat.log2_eq_iff hm).1 rfl
  refine (Nat.log2_eq_iff hne).2 ⟨?_, ?_⟩
  · rw [Nat.pow_add]
    exact Nat.mul_le_mul_right _ hlow
  · rw [Nat.add_right_comm, Nat.pow_add]
    exact Nat.mul_lt_mul_of_pos_right hhigh hpos

theorem ofMagnitude_mul_pow (f : BinaryFormat) {m : Nat} (hm : m ≠ 0) (t : Nat) (e : Int) :
    f.ofMagnitude (m * 2 ^ t) e = f.ofMagnitude m (e + t) := by
  have hlog : e + ((m * 2 ^ t).log2 : Nat) = e + t + (m.log2 : Nat) := by
    rw [log2_mul_pow hm]
    omega
  simp only [ofMagnitude, hlog, Nat.pow_eq]
  generalize max (e + t + (m.log2 : Nat) - f.fractionBits) f.minExponent = exponent
  congr 2
  by_cases h₁ : exponent ≤ e
  · rw [if_pos h₁, if_pos (by omega), Nat.mul_assoc, ← Nat.pow_add]
    congr 2
    omega
  by_cases h₂ : exponent ≤ e + t
  · rw [if_neg h₁, if_pos h₂]
    obtain ⟨s, hs⟩ : ∃ s : Nat, (exponent - e).toNat = s := ⟨_, rfl⟩
    have hsplit : m * 2 ^ t = m * 2 ^ (t - s) * 2 ^ s := by
      rw [Nat.mul_assoc, ← Nat.pow_add]
      congr 2
      omega
    rw [hs, hsplit, shiftToNearest_exact]
    congr 2
    omega
  · rw [if_neg h₁, if_neg h₂,
      show (exponent - e).toNat = (exponent - (e + t)).toNat + t by omega,
      shiftToNearest_mul_pow]

theorem ofParts_congr (f : BinaryFormat) (negative : Bool) {m n : Nat} {e g : Int}
    (h : (m : ℚ) * 2 ^ e = n * 2 ^ g) : f.ofParts negative m e = f.ofParts negative n g := by
  wlog hle : e ≤ g generalizing m n e g
  · exact (this h.symm (by omega)).symm
  obtain ⟨t, rfl⟩ : ∃ t : Nat, g = e + t := ⟨(g - e).toNat, by omega⟩
  have hpow : (2 : ℚ) ^ e ≠ 0 := by positivity
  have hm : m = n * 2 ^ t := by
    rw [zpow_add₀ two_ne_zero, zpow_natCast, mul_comm ((2 : ℚ) ^ e), ← mul_assoc] at h
    exact_mod_cast mul_right_cancel₀ hpow h
  rw [ofParts, ofParts, hm]
  by_cases hn : n = 0
  · simp [hn]
  · have hne : n * 2 ^ t ≠ 0 := by positivity
    rw [if_neg hn, if_neg hne, ofMagnitude_mul_pow f hn]

/-! ### Integers of at most 24 bits -/

theorem ofParts_lt (negative : Bool) (m : Nat) (e : Int) :
    single.ofParts negative m e < 2 ^ 32 := by
  have hmagnitude : (if m = 0 then 0 else single.ofMagnitude m e) ≤ single.infinity := by
    split
    · exact Nat.zero_le _
    · exact Nat.min_le_right ..
  have hsum : single.signBit + single.infinity < 2 ^ 32 := by decide
  rw [ofParts]
  cases negative
  · simp only [Bool.false_eq_true, if_false]
    omega
  · simp only [if_true]
    omega

theorem decode_sign (negative : Bool) {magnitude : Nat} (h : magnitude < single.infinity) :
    single.decode ((if negative then single.signBit else 0) + magnitude) =
      if magnitude / 2 ^ 23 = 0 then .finite negative (magnitude % 2 ^ 23) (-149)
      else .finite negative (2 ^ 23 + magnitude % 2 ^ 23)
        (-149 + (magnitude / 2 ^ 23 - 1 : Nat)) := by
  have hsign : single.signBit = 2 ^ 31 := rfl
  have hinfinity : single.infinity = 255 * 2 ^ 23 := rfl
  have hmagnitude : single.magnitude ((if negative then single.signBit else 0) + magnitude) =
      magnitude := by
    rw [BinaryFormat.magnitude, hsign]
    cases negative <;> simp <;> omega
  have hnegative : single.isNegative ((if negative then single.signBit else 0) + magnitude) =
      negative := by
    rw [isNegative, hsign]
    cases negative
    · simp
      omega
    · simp
      omega
  simp only [decode, hmagnitude, hnegative]
  rw [if_neg (by omega), if_neg (by omega)]
  rfl

theorem ofMagnitude_of_lt {n : Nat} (hpos : 0 < n) (hn : n < 2 ^ 24) :
    n.log2 ≤ 23 ∧ 2 ^ 23 ≤ n * 2 ^ (23 - n.log2) ∧ n * 2 ^ (23 - n.log2) < 2 ^ 24 ∧
      single.ofMagnitude n 0 = (n.log2 + 126) * 2 ^ 23 + n * 2 ^ (23 - n.log2) := by
  have hne : n ≠ 0 := hpos.ne'
  have hlog : n.log2 ≤ 23 := Nat.le_of_lt_succ ((Nat.log2_lt hne).2 hn)
  obtain ⟨hlow, hhigh⟩ := (Nat.log2_eq_iff hne).1 rfl
  have hscaled : 2 ^ 23 ≤ n * 2 ^ (23 - n.log2) := by
    have h := Nat.mul_le_mul_right (2 ^ (23 - n.log2)) hlow
    rwa [← Nat.pow_add, show n.log2 + (23 - n.log2) = 23 by omega] at h
  have hbound : n * 2 ^ (23 - n.log2) < 2 ^ 24 := by
    have h := Nat.mul_lt_mul_of_pos_right hhigh (Nat.two_pow_pos (23 - n.log2))
    rwa [← Nat.pow_add, show n.log2 + 1 + (23 - n.log2) = 24 by omega] at h
  refine ⟨hlog, hscaled, hbound, ?_⟩
  have hminimum : single.minExponent = -149 := rfl
  have hfraction : single.fractionBits = 23 := rfl
  have hinfinity : single.infinity = 255 * 2 ^ 23 := rfl
  have hexponent : max ((0 : Int) + n.log2 - (23 : Nat)) (-149) = (n.log2 : Int) - 23 := by
    omega
  simp only [ofMagnitude, hminimum, hfraction, hinfinity, hexponent, Nat.pow_eq]
  rw [if_pos (by omega), show ((n.log2 : Int) - 23 - -149).toNat = n.log2 + 126 by omega,
    show ((0 : Int) - ((n.log2 : Int) - 23)).toNat = 23 - n.log2 by omega,
    Nat.min_eq_left (by omega)]

theorem value?_ofParts_zero (negative : Bool) :
    (single.decode (single.ofParts negative 0 0)).value? = some 0 := by
  have hdecode := decode_sign negative (show 0 < single.infinity by decide)
  rw [ofParts, if_pos rfl, hdecode]
  simp [Datum.value?, signed]

theorem signed_mul_pow (negative : Bool) (m t : Nat) :
    (signed negative (m * 2 ^ t) : ℚ) = signed negative m * 2 ^ t := by
  cases negative <;> simp [signed]

/-- Integers of at most 24 bits are stored as they are. -/
theorem value?_ofParts (negative : Bool) {n : Nat} (hn : n ≤ 2 ^ 24) :
    (single.decode (single.ofParts negative n 0)).value? = some (signed negative n : ℚ) := by
  have hinfinity : single.infinity = 255 * 2 ^ 23 := rfl
  rcases Nat.eq_zero_or_pos n with rfl | hpos
  · rw [value?_ofParts_zero]
    cases negative <;> rfl
  rcases Nat.lt_or_eq_of_le hn with hlt | rfl
  · obtain ⟨hlog, hlow, hhigh, hmagnitude⟩ := ofMagnitude_of_lt hpos hlt
    have hfinite : single.ofMagnitude n 0 < single.infinity := by omega
    have hdecode := decode_sign negative hfinite
    rw [ofParts, if_neg hpos.ne', hdecode, if_neg (by omega), Datum.value?]
    have hfraction : 2 ^ 23 + single.ofMagnitude n 0 % 2 ^ 23 = n * 2 ^ (23 - n.log2) := by
      omega
    have hexponent : (-149 + (single.ofMagnitude n 0 / 2 ^ 23 - 1 : Nat) : Int) =
        -(23 - n.log2 : Nat) := by
      omega
    rw [hfraction, hexponent, signed_mul_pow, zpow_neg, zpow_natCast, mul_assoc,
      mul_inv_cancel₀ (by positivity), mul_one]
  · -- the leading bit is the 25th, and the last bit is dropped
    have hparts : single.ofParts negative (2 ^ 24) 0 =
        (if negative then single.signBit else 0) + 151 * 2 ^ 23 := by
      cases negative <;> decide
    rw [hparts, decode_sign negative (by decide), if_neg (by decide), Datum.value?]
    cases negative <;> norm_num [signed]

theorem signed_natAbs {negative : Bool} {m : Nat} {e k : Int}
    (h : (signed negative m : ℚ) * 2 ^ e = k) :
    (m : ℚ) * 2 ^ e = k.natAbs ∧ signed negative k.natAbs = k := by
  have hpow : (0 : ℚ) < 2 ^ e := by positivity
  have hm : (0 : ℚ) ≤ m * 2 ^ e := by positivity
  cases negative
  · have hk : (m : ℚ) * 2 ^ e = k := by simpa [signed] using h
    have hnonneg : 0 ≤ k := by exact_mod_cast hk ▸ hm
    have habs : (k.natAbs : Int) = k := Int.natAbs_of_nonneg hnonneg
    refine ⟨?_, habs⟩
    rw [hk, ← Int.cast_natCast, habs]
  · have hk : (m : ℚ) * 2 ^ e = (-k : Int) := by
      push_cast
      rw [← h]
      simp [signed]
    have hnonneg : 0 ≤ -k := by exact_mod_cast hk ▸ hm
    have habs : (k.natAbs : Int) = -k := by omega
    refine ⟨?_, show -(k.natAbs : Int) = k by omega⟩
    rw [hk, ← Int.cast_natCast, habs]

/-! ### Sums and products -/

theorem finite_of_value? {x : Datum} {q : ℚ} (h : x.value? = some q) :
    ∃ negative m e, x = .finite negative m e ∧ (signed negative m : ℚ) * 2 ^ e = q := by
  cases x with
  | finite negative m e => exact ⟨negative, m, e, rfl, Option.some.inj h⟩
  | infinite negative => contradiction
  | nan => contradiction

theorem signed_align (negative : Bool) (m : Nat) {low e : Int} (h : low ≤ e) :
    (signed negative (m * 2 ^ (e - low).toNat) : ℚ) * 2 ^ low = signed negative m * 2 ^ e := by
  obtain ⟨t, rfl⟩ : ∃ t : Nat, e = low + t := ⟨(e - low).toNat, by omega⟩
  rw [show (low + t - low).toNat = t by omega, signed_mul_pow, zpow_add₀ two_ne_zero,
    zpow_natCast]
  ring

theorem signed_of_sum (negative : Bool) (total : Int) :
    signed (if total = 0 then negative else total < 0) total.natAbs = total := by
  by_cases hzero : total = 0
  · cases negative <;> simp [hzero, signed]
  · rw [if_neg hzero, signed]
    split
    · next hneg => have := of_decide_eq_true hneg; omega
    · next hneg => have := of_decide_eq_false (eq_false_of_ne_true hneg); omega

/-- The exact sum of two integers, brought to one exponent before it is rounded. -/
theorem sumOf_finite {s t : Bool} {m n : Nat} {e g i j : Int}
    (hm : (signed s m : ℚ) * 2 ^ e = i) (hn : (signed t n : ℚ) * 2 ^ g = j) :
    ∃ total low : Int,
      single.sumOf (.finite s m e) (.finite t n g) =
        single.ofParts (if total = 0 then s && t else total < 0) total.natAbs low ∧
      (signed (if total = 0 then s && t else total < 0) total.natAbs : ℚ) * 2 ^ low =
        (i + j : Int) ∧
      (i + j = 0 → total = 0) := by
  refine ⟨_, min e g, rfl, ?_⟩
  have hsum : ((signed s (m * 2 ^ (e - min e g).toNat) +
      signed t (n * 2 ^ (g - min e g).toNat) : Int) : ℚ) * 2 ^ min e g = (i + j : Int) := by
    push_cast
    rw [add_mul, signed_align s m (min_le_left e g), signed_align t n (min_le_right e g), hm, hn]
  refine ⟨?_, fun hzero => ?_⟩
  · rw [signed_of_sum]
    exact hsum
  · have hpow : (2 : ℚ) ^ min e g ≠ 0 := by positivity
    rw [hzero, Int.cast_zero] at hsum
    exact_mod_cast (mul_eq_zero.1 hsum).resolve_right hpow

theorem sumOf_eq_ofParts {x y : Datum} {i j : Int} (hx : x.value? = some (i : ℚ))
    (hy : y.value? = some (j : ℚ)) :
    ∃ negative m e, single.sumOf x y = single.ofParts negative m e ∧
      (signed negative m : ℚ) * 2 ^ e = (i + j : Int) := by
  obtain ⟨s, m, e, rfl, hm⟩ := finite_of_value? hx
  obtain ⟨t, n, g, rfl, hn⟩ := finite_of_value? hy
  obtain ⟨total, low, hsum, hvalue, _⟩ := sumOf_finite hm hn
  exact ⟨_, _, _, hsum, hvalue⟩

theorem value?_negated {x : Datum} {i : Int} (hx : x.value? = some (i : ℚ)) :
    (negated x).value? = some ((-i : Int) : ℚ) := by
  obtain ⟨s, m, e, rfl, hm⟩ := finite_of_value? hx
  rw [negated, Datum.value?]
  push_cast
  rw [← hm]
  cases s <;> simp [signed]

theorem productOf_eq_ofParts {x y : Datum} {i j : Int} (hx : x.value? = some (i : ℚ))
    (hy : y.value? = some (j : ℚ)) :
    ∃ negative m e, single.productOf x y = single.ofParts negative m e ∧
      (signed negative m : ℚ) * 2 ^ e = (i * j : Int) := by
  obtain ⟨s, m, e, rfl, hm⟩ := finite_of_value? hx
  obtain ⟨t, n, g, rfl, hn⟩ := finite_of_value? hy
  refine ⟨_, _, _, rfl, ?_⟩
  have hsigned : (signed (s != t) (m * n) : ℚ) = signed s m * signed t n := by
    cases s <;> cases t <;> simp [signed]
  push_cast
  rw [hsigned, zpow_add₀ two_ne_zero, ← hm, ← hn]
  ring

theorem lift_of_finite {op : Datum → Datum → Nat} {a b : Nat} {p q : ℚ}
    (ha : (f.decode a).value? = some p) (hb : (f.decode b).value? = some q) :
    f.lift op a b = op (f.decode a) (f.decode b) := by
  obtain ⟨s, m, e, hx, _⟩ := finite_of_value? ha
  obtain ⟨t, n, g, hy, _⟩ := finite_of_value? hb
  rw [lift, hx, hy]

theorem negative_eq {negative : Bool} {k : Int} (h : signed negative k.natAbs = k)
    (hk : k ≠ 0) : negative = decide (k < 0) := by
  cases negative
  · have hpos : (k.natAbs : Int) = k := h
    exact (decide_eq_false (by omega)).symm
  · have hneg : -(k.natAbs : Int) = k := h
    exact (decide_eq_true (by omega)).symm

/-- A sum of integers is the nearest pattern to it. A zero has no sign, as long as the left
number has none where it is zero. -/
theorem sumOf_eq_ofInt {x y : Datum} {i j : Int} (hx : x.value? = some (i : ℚ))
    (hy : y.value? = some (j : ℚ)) (hzero : i = 0 → ∀ m e, x ≠ .finite true m e) :
    single.sumOf x y = single.ofInt (i + j) := by
  obtain ⟨s, m, e, rfl, hm⟩ := finite_of_value? hx
  obtain ⟨t, n, g, rfl, hn⟩ := finite_of_value? hy
  obtain ⟨total, low, hsum, hvalue, htotal⟩ := sumOf_finite hm hn
  obtain ⟨hmagnitude, hsigned⟩ := signed_natAbs hvalue
  have hnegative : (if total = 0 then s && t else total < 0) = decide (i + j < 0) := by
    by_cases hk : i + j = 0
    · -- the exact sum is zero, and one of the two numbers has no sign
      have hleft := (signed_natAbs hm).2
      have hright := (signed_natAbs hn).2
      rw [if_pos (htotal hk), decide_eq_false (by omega), Bool.and_eq_false_iff]
      cases s
      · exact .inl rfl
      · refine .inr ?_
        cases t
        · rfl
        · have hi : -(i.natAbs : Int) = i := hleft
          have hj : -(j.natAbs : Int) = j := hright
          exact absurd rfl (hzero (by omega) m e)
    · exact negative_eq hsigned hk
  rw [hsum, hnegative]
  refine ofParts_congr single _ ?_
  rw [hmagnitude, zpow_zero, mul_one]

end BinaryFormat

namespace Binary32

open BinaryFormat

variable {x y : Binary32} {i j : Int}

def value? (x : Binary32) : Option ℚ :=
  x.datum.value?

theorem toNat_ofPattern {n : Nat} (h : n < 2 ^ 32) : (ofPattern n).bits.toNat = n :=
  UInt32.toNat_ofNat_of_lt' h

theorem value?_ofParts {negative : Bool} {m : Nat} {e k : Int}
    (h : (signed negative m : ℚ) * 2 ^ e = k) (hk : k.natAbs ≤ 2 ^ 24) :
    (ofPattern (single.ofParts negative m e)).value? = some (k : ℚ) := by
  obtain ⟨hm, hsigned⟩ := signed_natAbs h
  have hvalue : (m : ℚ) * 2 ^ e = k.natAbs * 2 ^ (0 : Int) := by rw [zpow_zero, mul_one, hm]
  rw [value?, datum, toNat_ofPattern (ofParts_lt ..), ofParts_congr single negative hvalue,
    BinaryFormat.value?_ofParts negative hk, hsigned]

theorem value?_ofInt (h : i.natAbs ≤ 2 ^ 24) : (ofInt i).value? = some (i : ℚ) := by
  refine value?_ofParts ?_ h
  rw [zpow_zero, mul_one]
  congr 1
  by_cases hneg : i < 0
  · rw [decide_eq_true hneg]
    show -(i.natAbs : Int) = i
    omega
  · rw [decide_eq_false hneg]
    show (i.natAbs : Int) = i
    omega

theorem value?_ofNat {n : Nat} (h : n ≤ 2 ^ 24) : (ofNat n).value? = some ((n : Int) : ℚ) := by
  refine value?_ofParts ?_ h
  rw [zpow_zero, mul_one]
  rfl

theorem value?_add (hx : x.value? = some (i : ℚ)) (hy : y.value? = some (j : ℚ))
    (h : (i + j).natAbs ≤ 2 ^ 24) : (x + y).value? = some ((i + j : Int) : ℚ) := by
  have hpattern : single.add x.bits.toNat y.bits.toNat = single.sumOf x.datum y.datum :=
    lift_of_finite hx hy
  obtain ⟨negative, m, e, hsum, hvalue⟩ := sumOf_eq_ofParts hx hy
  show (ofPattern (single.add x.bits.toNat y.bits.toNat)).value? = _
  rw [hpattern, hsum]
  exact value?_ofParts hvalue h

theorem value?_sub (hx : x.value? = some (i : ℚ)) (hy : y.value? = some (j : ℚ))
    (h : (i - j).natAbs ≤ 2 ^ 24) : (x - y).value? = some ((i - j : Int) : ℚ) := by
  have hpattern : single.sub x.bits.toNat y.bits.toNat =
      single.sumOf x.datum (negated y.datum) := lift_of_finite hx hy
  obtain ⟨negative, m, e, hsum, hvalue⟩ := sumOf_eq_ofParts hx (value?_negated hy)
  show (ofPattern (single.sub x.bits.toNat y.bits.toNat)).value? = _
  rw [hpattern, hsum]
  exact value?_ofParts hvalue h

theorem value?_mul (hx : x.value? = some (i : ℚ)) (hy : y.value? = some (j : ℚ))
    (h : (i * j).natAbs ≤ 2 ^ 24) : (x * y).value? = some ((i * j : Int) : ℚ) := by
  have hpattern : single.mul x.bits.toNat y.bits.toNat = single.productOf x.datum y.datum :=
    lift_of_finite hx hy
  obtain ⟨negative, m, e, hproduct, hvalue⟩ := productOf_eq_ofParts hx hy
  show (ofPattern (single.mul x.bits.toNat y.bits.toNat)).value? = _
  rw [hpattern, hproduct]
  exact value?_ofParts hvalue h

theorem ofInt_add (hi : i.natAbs ≤ 2 ^ 24) (hy : y.value? = some (j : ℚ)) :
    ofInt i + y = ofInt (i + j) := by
  have hx := value?_ofInt hi
  have hpattern : single.add (ofInt i).bits.toNat y.bits.toNat =
      single.sumOf (ofInt i).datum y.datum := lift_of_finite hx hy
  show ofPattern (single.add (ofInt i).bits.toNat y.bits.toNat) = _
  rw [hpattern, sumOf_eq_ofInt hx hy]
  · rfl
  · rintro rfl m e
    have hzero : (ofInt 0).datum = .finite false 0 (-149) := by decide
    rw [hzero]
    simp

theorem zero_eq_ofInt : zero = ofInt 0 := by
  decide

end Binary32

end DetectorScan
