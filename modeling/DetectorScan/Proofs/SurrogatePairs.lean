import DetectorScan.Proofs.Utf16Texts

/-!
# Surrogates in pairs

Units are well formed when every surrogate among them is one half of a pair, the high half
first. These are the units that are read as a text. The first units of a text are well
formed as well, unless they end between the two units of a character.
-/

namespace DetectorScan.Utf16

inductive WellFormed : List UInt16 → Prop where
  | nil : WellFormed []
  | single {u : UInt16} {rest : List UInt16} (hhigh : ¬isHigh u) (hlow : ¬isLow u)
    (hrest : WellFormed rest) : WellFormed (u :: rest)
  | pair {u v : UInt16} {rest : List UInt16} (hhigh : isHigh u) (hlow : isLow v)
    (hrest : WellFormed rest) : WellFormed (u :: v :: rest)

theorem wellFormed_encode (cs : List Char) : WellFormed (encode cs) := by
  induction cs with
  | nil => exact .nil
  | cons c cs ih =>
    rw [encode_cons]
    rcases single_or_pair c with ⟨u, hhigh, hlow, rfl⟩ | ⟨u, v, hhigh, hlow, rfl⟩
    · rw [unitsOf_single hhigh hlow]
      exact .single hhigh hlow ih
    · rw [unitsOf_pair hhigh hlow]
      exact .pair hhigh hlow ih

theorem wellFormed_iff {us : List UInt16} : WellFormed us ↔ ∃ cs, decode us = some cs := by
  constructor
  · intro h
    induction h with
    | nil => exact ⟨[], rfl⟩
    | single hhigh hlow _ ih =>
      obtain ⟨cs, hcs⟩ := ih
      exact ⟨_, by rw [decode_single _ hhigh hlow, hcs, Option.map_some]⟩
    | pair hhigh hlow _ ih =>
      obtain ⟨cs, hcs⟩ := ih
      exact ⟨_, by rw [decode_pair _ hhigh hlow, hcs, Option.map_some]⟩
  · intro h
    obtain ⟨cs, hcs⟩ := h
    rw [decode_eq_some_iff.1 hcs]
    exact wellFormed_encode cs

instance (us : List UInt16) : Decidable (WellFormed us) :=
  decidable_of_iff ((decode us).isSome = true) (Option.isSome_iff_exists.trans wellFormed_iff.symm)

theorem wellFormed_single_iff {u : UInt16} {rest : List UInt16} (hhigh : ¬isHigh u)
    (hlow : ¬isLow u) : WellFormed (u :: rest) ↔ WellFormed rest := by
  constructor
  · intro h
    cases h with
    | single _ _ hrest => exact hrest
    | pair hpair _ _ => exact absurd hpair hhigh
  · exact .single hhigh hlow

theorem wellFormed_pair_iff {u v : UInt16} {rest : List UInt16} (hhigh : isHigh u)
    (hlow : isLow v) : WellFormed (u :: v :: rest) ↔ WellFormed rest := by
  constructor
  · intro h
    cases h with
    | single hsingle _ _ => exact absurd hhigh hsingle
    | pair _ _ hrest => exact hrest
  · exact .pair hhigh hlow

theorem not_wellFormed_high {u : UInt16} (hhigh : isHigh u) : ¬WellFormed [u] := by
  intro h
  cases h with
  | single hsingle _ _ => exact hsingle hhigh

/-! ### The first units of a text -/

/-- The first `k` units of a text end between the two units of a character. -/
def EndsInPair (k : Nat) (cs : List Char) : Prop :=
  ∃ front c back, cs = front ++ c :: back ∧ (unitsOf c).length = 2 ∧
    k = (encode front).length + 1

theorem not_endsInPair_nil (k : Nat) : ¬EndsInPair k [] := by
  intro h
  obtain ⟨front, c, back, hnil, -, -⟩ := h
  simp at hnil

theorem not_endsInPair_zero (cs : List Char) : ¬EndsInPair 0 cs := by
  intro h
  obtain ⟨front, c, back, -, -, hzero⟩ := h
  omega

theorem endsInPair_cons_iff {k : Nat} {c : Char} {cs : List Char} :
    EndsInPair k (c :: cs) ↔ (unitsOf c).length = 2 ∧ k = 1 ∨
      ∃ j, k = (unitsOf c).length + j ∧ EndsInPair j cs := by
  constructor
  · intro h
    obtain ⟨front, d, back, hcs, htwo, hk⟩ := h
    cases front with
    | nil =>
      obtain ⟨rfl, rfl⟩ := List.cons.inj hcs
      exact .inl ⟨htwo, hk⟩
    | cons e front =>
      obtain ⟨rfl, rfl⟩ := List.cons.inj hcs
      refine .inr ⟨(encode front).length + 1, ?_, front, d, back, rfl, htwo, rfl⟩
      rw [hk, encode_cons, List.length_append]
      omega
  · intro h
    rcases h with ⟨htwo, hk⟩ | ⟨j, hk, front, d, back, rfl, htwo, hj⟩
    · exact ⟨[], c, cs, rfl, htwo, hk⟩
    · refine ⟨c :: front, d, back, rfl, htwo, ?_⟩
      rw [encode_cons, List.length_append]
      omega

theorem wellFormed_take_encode_iff {k : Nat} {cs : List Char} :
    WellFormed ((encode cs).take k) ↔ ¬EndsInPair k cs := by
  induction cs generalizing k with
  | nil =>
    have hnil : (encode []).take k = [] := List.take_nil
    rw [hnil]
    exact iff_of_true .nil (not_endsInPair_nil k)
  | cons c cs ih =>
    cases k with
    | zero => exact iff_of_true .nil (not_endsInPair_zero _)
    | succ k =>
      rw [encode_cons, endsInPair_cons_iff]
      rcases single_or_pair c with ⟨u, hhigh, hlow, rfl⟩ | ⟨u, v, hhigh, hlow, rfl⟩
      · rw [unitsOf_single hhigh hlow, List.singleton_append, List.take_succ_cons,
          wellFormed_single_iff hhigh hlow, ih]
        simp [Nat.add_comm 1]
      · rw [unitsOf_pair hhigh hlow]
        cases k with
        | zero =>
          have hhalf : List.take (0 + 1) ([u, v] ++ encode cs) = [u] := rfl
          rw [hhalf]
          exact iff_of_false (not_wellFormed_high hhigh) fun h => h (.inl ⟨rfl, rfl⟩)
        | succ k =>
          have htake : List.take (k + 1 + 1) ([u, v] ++ encode cs) =
              u :: v :: (encode cs).take k := rfl
          rw [htake, wellFormed_pair_iff hhigh hlow, ih]
          simp [Nat.add_comm 2]

end DetectorScan.Utf16
