import DetectorScan.Proofs.ExactNumbers

/-!
# Numbers nearest to an integer

An integer of more than 24 bits is rounded where its low bits are dropped. No number of the
32-bit format is nearer to it than the one that it is rounded to, and of two that are as near
this is the one whose last bit is not set.
-/

namespace DetectorScan

/-- A number of the 32-bit format, with its value, to which a natural number is rounded: no
other is nearer, and its last bit is not set if another is as near. -/
structure Binary32.NearestTo (x : Binary32) (n : Nat) (value : ℚ) : Prop where
  value_eq : x.value? = some value
  /-- The sign bit is not set, not even for zero. -/
  positive : x.bits.toNat < 2 ^ 31
  nearest : ∀ (y : Binary32) (other : ℚ), y.value? = some other → |value - n| ≤ |other - n|
  even : ∀ (y : Binary32) (other : ℚ), y.value? = some other → other ≠ value →
    |other - n| = |value - n| → x.bits.toNat % 2 = 0

namespace BinaryFormat

/-! ### Dropped bits -/

/-- Half a step is the largest error, and then the number is even. -/
theorem shiftToNearest_error (m s : Nat) :
    2 * ((shiftToNearest m s : Int) * 2 ^ s - m).natAbs ≤ 2 ^ s ∧
      (2 * ((shiftToNearest m s : Int) * 2 ^ s - m).natAbs = 2 ^ s →
        shiftToNearest m s % 2 = 0) := by
  have hdiv := Nat.div_add_mod' m (2 ^ s)
  have hmod := Nat.mod_lt m (Nat.two_pow_pos s)
  have hnext : ((m / 2 ^ s + 1 : Nat) : Int) * 2 ^ s = (m / 2 ^ s * 2 ^ s + 2 ^ s : Nat) := by
    push_cast
    ring
  have hsame : ((m / 2 ^ s : Nat) : Int) * 2 ^ s = (m / 2 ^ s * 2 ^ s : Nat) := by
    push_cast
    rfl
  simp only [shiftToNearest, Nat.pow_eq]
  split
  · rw [hsame]
    omega
  split
  · obtain heven | hodd := Nat.mod_two_eq_zero_or_one (m / 2 ^ s)
    · rw [heven, Nat.add_zero, hsame]
      omega
    · rw [hodd, hnext]
      omega
  · rw [hnext]
    omega

/-- Of all numbers of steps the nearest is taken. -/
theorem shiftToNearest_nearest (m s : Nat) (k : Int) :
    ((shiftToNearest m s : Int) * 2 ^ s - m).natAbs ≤ (k * 2 ^ s - m).natAbs ∧
      (k ≠ shiftToNearest m s →
        (k * 2 ^ s - m).natAbs = ((shiftToNearest m s : Int) * 2 ^ s - m).natAbs →
          shiftToNearest m s % 2 = 0) := by
  obtain ⟨herror, heven⟩ := shiftToNearest_error m s
  generalize shiftToNearest m s = nearest at herror heven ⊢
  have hstep : ((2 ^ s : Nat) : Int) = 2 ^ s := by push_cast; rfl
  have hpos := Nat.two_pow_pos s
  -- any other number of steps is one step away at least, and the error is half a step at most
  obtain hlt | rfl | hgt := lt_trichotomy k nearest
  · have haway : (k + 1) * 2 ^ s ≤ (nearest : Int) * 2 ^ s :=
      Int.mul_le_mul_of_nonneg_right hlt (by positivity)
    rw [Int.add_mul, Int.one_mul] at haway
    omega
  · exact ⟨Nat.le_refl _, fun hne => absurd rfl hne⟩
  · have haway : ((nearest : Int) + 1) * 2 ^ s ≤ k * 2 ^ s :=
      Int.mul_le_mul_of_nonneg_right hgt (by positivity)
    rw [Int.add_mul, Int.one_mul] at haway
    omega

/-! ### Integers of more than 24 bits -/

/-- An integer is rounded to 24 bits, behind which `s` bits are dropped. -/
theorem ofNat_of_ge {n : Nat} (hlow : 2 ^ 24 ≤ n) (hhigh : n < 2 ^ 64) :
    ∃ s : Nat, 1 ≤ s ∧ s ≤ 40 ∧ 2 ^ 23 * 2 ^ s ≤ n ∧
      2 ^ 23 ≤ shiftToNearest n s ∧ shiftToNearest n s ≤ 2 ^ 24 ∧
      single.ofNat n = (s + 149) * 2 ^ 23 + shiftToNearest n s := by
  have hne : n ≠ 0 := by omega
  have hleast : 24 ≤ n.log2 := (Nat.le_log2 hne).2 hlow
  have hmost : n.log2 < 64 := (Nat.log2_lt hne).2 hhigh
  obtain ⟨s, hs⟩ : ∃ s, n.log2 = 23 + s := ⟨n.log2 - 23, by omega⟩
  obtain ⟨hbelow, habove⟩ := (Nat.log2_eq_iff hne).1 hs
  rw [Nat.pow_add] at hbelow
  rw [show 23 + s + 1 = 24 + s by omega, Nat.pow_add] at habove
  have hquotient : 2 ^ 23 ≤ n / 2 ^ s := (Nat.le_div_iff_mul_le (Nat.two_pow_pos s)).2 hbelow
  have hquotient' : n / 2 ^ s < 2 ^ 24 := (Nat.div_lt_iff_lt_mul (Nat.two_pow_pos s)).2 habove
  have hbounds : 2 ^ 23 ≤ shiftToNearest n s ∧ shiftToNearest n s ≤ 2 ^ 24 := by
    simp only [shiftToNearest, Nat.pow_eq]
    split
    · omega
    split
    · omega
    · omega
  refine ⟨s, by omega, by omega, hbelow, hbounds.1, hbounds.2, ?_⟩
  have hminimum : single.minExponent = -149 := rfl
  have hfraction : single.fractionBits = 23 := rfl
  have hinfinity : single.infinity = 255 * 2 ^ 23 := rfl
  have hexponent : max ((0 : Int) + (23 + s : Nat) - (23 : Nat)) (-149) = (s : Int) := by omega
  simp only [BinaryFormat.ofNat, ofParts, ofMagnitude, hs, hminimum, hfraction, hinfinity,
    hexponent, Nat.pow_eq, Bool.false_eq_true, if_false, Nat.zero_add]
  rw [if_neg hne, if_neg (by omega), show ((s : Int) - 0).toNat = s by omega,
    show ((s : Int) - -149).toNat = s + 149 by omega, Nat.min_eq_left (by omega)]

theorem decode_finite {bits m : Nat} {negative : Bool} {e : Int}
    (h : single.decode bits = .finite negative m e) : m < 2 ^ 24 := by
  have hfraction : single.magnitude bits % Nat.pow 2 single.fractionBits < 2 ^ 23 :=
    Nat.mod_lt _ (Nat.two_pow_pos 23)
  have hleading : Nat.pow 2 single.fractionBits = 2 ^ 23 := rfl
  simp only [decode] at h
  by_cases hnan : single.infinity < single.magnitude bits
  · rw [if_pos hnan] at h
    contradiction
  by_cases hinfinite : single.magnitude bits = single.infinity
  · rw [if_neg hnan, if_pos hinfinite] at h
    contradiction
  rw [if_neg hnan, if_neg hinfinite] at h
  split at h
  · cases h
    omega
  · cases h
    omega

end BinaryFormat

namespace Binary32

open BinaryFormat

theorem value?_of_ge {n s : Nat} (hs : s ≤ 40) (hlow : 2 ^ 23 ≤ shiftToNearest n s)
    (hhigh : shiftToNearest n s ≤ 2 ^ 24)
    (hpattern : single.ofNat n = (s + 149) * 2 ^ 23 + shiftToNearest n s) :
    (ofNat n).value? = some ((shiftToNearest n s : ℚ) * 2 ^ s) := by
  have hinfinity : single.infinity = 255 * 2 ^ 23 := rfl
  have hfinite : single.ofNat n < single.infinity := by omega
  have hdecode := decode_sign false hfinite
  simp only [Bool.false_eq_true, if_false, Nat.zero_add] at hdecode
  rw [value?, datum, ofNat, toNat_ofPattern (by omega), hdecode, if_neg (by omega), Datum.value?]
  obtain hless | hcarry := Nat.lt_or_eq_of_le hhigh
  · rw [show 2 ^ 23 + single.ofNat n % 2 ^ 23 = shiftToNearest n s by omega,
      show (-149 + (single.ofNat n / 2 ^ 23 - 1 : Nat) : Int) = (s : Nat) by omega, zpow_natCast]
    rfl
  · -- rounding has carried into the next power of two
    rw [show 2 ^ 23 + single.ofNat n % 2 ^ 23 = 2 ^ 23 by omega,
      show (-149 + (single.ofNat n / 2 ^ 23 - 1 : Nat) : Int) = (s + 1 : Nat) by omega,
      zpow_natCast, hcarry, pow_succ]
    norm_num [signed]
    ring

/-- The value of a finite number, in steps of `2 ^ s` or too small for one. -/
theorem steps_or_lt {y : Binary32} {other : ℚ} (h : y.value? = some other) (s : Nat) :
    (∃ k : Int, other = k * 2 ^ s) ∨ other < 2 ^ 23 * 2 ^ s := by
  obtain ⟨negative, m, e, hdatum, rfl⟩ := finite_of_value? h
  have hm := decode_finite hdatum
  obtain hle | hlt := le_or_gt (s : Int) e
  · left
    refine ⟨signed negative (m * 2 ^ (e - s).toNat), ?_⟩
    rw [← signed_align negative m hle, zpow_natCast]
  · right
    have hsigned : (signed negative m : ℚ) ≤ m := by
      cases negative
      · simp [signed]
      · simp only [signed, if_true]
        push_cast
        linarith [(Nat.cast_nonneg m : (0 : ℚ) ≤ m)]
    have hfew : (m : ℚ) < 2 ^ 24 := by exact_mod_cast hm
    have hpower : (2 : ℚ) ^ e ≤ 2 ^ (s - 1 : Int) := zpow_le_zpow_right₀ one_le_two (by omega)
    have hhalf : (2 : ℚ) ^ 24 * 2 ^ (s - 1 : Int) = 2 ^ 23 * 2 ^ s := by
      rw [zpow_sub₀ two_ne_zero, zpow_natCast]
      ring
    have hpos : (0 : ℚ) < 2 ^ e := by positivity
    calc (signed negative m : ℚ) * 2 ^ e ≤ m * 2 ^ e := by gcongr
      _ < 2 ^ 24 * 2 ^ e := by gcongr
      _ ≤ 2 ^ 24 * 2 ^ (s - 1 : Int) := by gcongr
      _ = 2 ^ 23 * 2 ^ s := hhalf

theorem abs_steps_sub (k : Int) (s n : Nat) :
    |(k : ℚ) * 2 ^ s - n| = ((k * 2 ^ s - n).natAbs : ℚ) := by
  rw [Nat.cast_natAbs]
  push_cast
  rfl

theorem toNat_bits_ofNat_lt (n : Nat) : (ofNat n).bits.toNat < 2 ^ 31 := by
  have hpattern : single.ofNat n ≤ single.infinity := by
    rw [BinaryFormat.ofNat, ofParts, if_neg Bool.false_ne_true, Nat.zero_add]
    split
    · exact Nat.zero_le _
    · exact Nat.min_le_right ..
  have hinfinity : single.infinity = 255 * 2 ^ 23 := rfl
  rw [ofNat, toNat_ofPattern (by omega)]
  omega

/-- A number that is smaller than all that are as long as `n` is farther from it. -/
theorem abs_shiftToNearest_sub_lt {n s : Nat} {other : ℚ} (hsteps : 2 ^ 23 * 2 ^ s ≤ n)
    (hfew : other < 2 ^ 23 * 2 ^ s) :
    |(shiftToNearest n s : ℚ) * 2 ^ s - n| < |other - n| := by
  have hleast : (2 ^ 23 * 2 ^ s : ℚ) ≤ n := by exact_mod_cast hsteps
  have hnearest : |((shiftToNearest n s : Int) : ℚ) * 2 ^ s - n| ≤
      |(((2 ^ 23 : Nat) : Int) : ℚ) * 2 ^ s - n| := by
    rw [abs_steps_sub, abs_steps_sub]
    exact Nat.cast_le.2 (shiftToNearest_nearest n s (2 ^ 23 : Nat)).1
  rw [Int.cast_natCast, show (((2 ^ 23 : Nat) : Int) : ℚ) = 2 ^ 23 by norm_num] at hnearest
  refine hnearest.trans_lt ?_
  rw [abs_of_nonpos (by linarith), abs_of_neg (by linarith)]
  linarith

theorem nearestTo_ofNat_of_le {n : Nat} (h : n ≤ 2 ^ 24) : (ofNat n).NearestTo n n := by
  have hvalue : (ofNat n).value? = some (n : ℚ) := value?_ofNat h
  refine ⟨hvalue, toNat_bits_ofNat_lt n, fun y other _ => ?_, fun y other _ hne htie => ?_⟩
  · rw [sub_self, abs_zero]
    exact abs_nonneg _
  · rw [sub_self, abs_zero, abs_eq_zero, sub_eq_zero] at htie
    exact absurd htie hne

theorem nearestTo_ofNat_of_ge {n : Nat} (hlow : 2 ^ 24 ≤ n) (hhigh : n < 2 ^ 64) :
    ∃ value, (ofNat n).NearestTo n value := by
  obtain ⟨s, hs, hmost, hsteps, hleast, hgreatest, hpattern⟩ := ofNat_of_ge hlow hhigh
  have hbits : (ofNat n).bits.toNat = (s + 149) * 2 ^ 23 + shiftToNearest n s := by
    rw [ofNat, toNat_ofPattern (by omega), hpattern]
  have herror := abs_steps_sub (shiftToNearest n s) s n
  rw [Int.cast_natCast] at herror
  refine ⟨_, value?_of_ge hmost hleast hgreatest hpattern, toNat_bits_ofNat_lt n,
    fun y other hy => ?_, fun y other hy hne htie => ?_⟩
  · obtain ⟨k, rfl⟩ | hfew := steps_or_lt hy s
    · rw [herror, abs_steps_sub]
      exact_mod_cast (shiftToNearest_nearest n s k).1
    · exact (abs_shiftToNearest_sub_lt hsteps hfew).le
  · obtain ⟨k, rfl⟩ | hfew := steps_or_lt hy s
    · rw [herror, abs_steps_sub] at htie
      have hk : k ≠ shiftToNearest n s := by
        rintro rfl
        exact hne (by rw [Int.cast_natCast])
      have heven := (shiftToNearest_nearest n s k).2 hk (by exact_mod_cast htie)
      omega
    · exact absurd htie (abs_shiftToNearest_sub_lt hsteps hfew).ne'

/-- Each natural number of 64 bits is rounded to the nearest number. -/
theorem nearestTo_ofNat {n : Nat} (hn : n < 2 ^ 64) : ∃ value, (ofNat n).NearestTo n value := by
  obtain hsmall | hlarge := Nat.le_total n (2 ^ 24)
  · exact ⟨n, nearestTo_ofNat_of_le hsmall⟩
  · exact nearestTo_ofNat_of_ge hlarge hn

end Binary32

end DetectorScan
