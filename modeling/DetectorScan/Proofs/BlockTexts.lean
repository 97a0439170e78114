import DetectorScan.Proofs.SurrogatePairs
import DetectorScan.Proofs.TextBlocks

/-!
# What a block of text says

The text of a block is made of the units in front of its first zero, without a mark in
front of them and in the order that the mark asks for. A block can be read exactly when
these units are well formed. From here it follows which blocks are written again as they
were, and which texts leave a block that can be read.
-/

namespace DetectorScan.TextBlock

/-! ### The text of a block -/

/-- The units in front of the first zero, or all of them where there is none. -/
inductive UpToZero : List UInt16 → List UInt16 → Prop where
  | zero {front : List UInt16} (back : List UInt16) (h : 0 ∉ front) :
    UpToZero (front ++ 0 :: back) front
  | none {us : List UInt16} (h : 0 ∉ us) : UpToZero us us

/-- The units behind a mark, in the order of the machine. -/
inductive Unmarked : List UInt16 → List UInt16 → Prop where
  | mark (us : List UInt16) : Unmarked (byteOrderMark :: us) us
  | reversed (us : List UInt16) : Unmarked (reversedMark :: us) (us.map Utf16.swapBytes)
  | none {us : List UInt16} (hmark : us.head? ≠ some byteOrderMark)
    (hreversed : us.head? ≠ some reversedMark) : Unmarked us us

/-- The units of the text that a block holds. -/
def HoldsUnits (b : Bytes) (us : List UInt16) : Prop :=
  ∃ front, UpToZero (Utf16.ofBytes b) front ∧ Unmarked front us

def Readable (b : Bytes) : Prop :=
  ∃ us, HoldsUnits b us ∧ Utf16.WellFormed us

theorem cut_cons_zero (us : List UInt16) : cut (0 :: us) = [] := by
  simp [cut]

theorem cut_cons_of_ne {u : UInt16} (us : List UInt16) (hu : u ≠ 0) :
    cut (u :: us) = u :: cut us := by
  simp [cut, hu]

theorem cut_append_of_not_mem {front : List UInt16} (back : List UInt16) (h : 0 ∉ front) :
    cut (front ++ back) = front ++ cut back := by
  have hfront := cut_eq_self_iff.2 h
  rw [cut, List.takeWhile_eq_self_iff] at hfront
  rw [cut, List.takeWhile_append_of_pos hfront, cut]

theorem upToZero_cut (us : List UInt16) : UpToZero us (cut us) := by
  induction us with
  | nil => exact .none List.not_mem_nil
  | cons u us ih =>
    by_cases hu : u = 0
    · rw [hu, cut_cons_zero]
      exact .zero us List.not_mem_nil
    · rw [cut_cons_of_ne us hu]
      generalize cut us = front at ih
      cases ih with
      | zero back h => exact .zero back (List.not_mem_cons_of_ne_of_not_mem (Ne.symm hu) h)
      | none h => exact .none (List.not_mem_cons_of_ne_of_not_mem (Ne.symm hu) h)

theorem UpToZero.eq_cut {us front : List UInt16} (h : UpToZero us front) : front = cut us := by
  cases h with
  | zero back h => rw [cut_append_of_not_mem _ h, cut_cons_zero, List.append_nil]
  | none h => exact (cut_eq_self_iff.2 h).symm

theorem unmarked_normalize (us : List UInt16) : Unmarked us (normalize us) := by
  fun_cases normalize us with
  | case1 => exact .none (by simp) (by simp)
  | case2 rest => exact .mark rest
  | case3 rest => exact .reversed rest
  | case4 u rest hmark hreversed => exact .none (by simp [hmark]) (by simp [hreversed])

theorem Unmarked.eq_normalize {us vs : List UInt16} (h : Unmarked us vs) : vs = normalize us := by
  cases h with
  | mark => rfl
  | reversed => rfl
  | none hmark hreversed => exact (normalize_eq_self_iff.2 ⟨hmark, hreversed⟩).symm

theorem holdsUnits_iff {b : Bytes} {us : List UInt16} :
    HoldsUnits b us ↔ us = normalize (cut (Utf16.ofBytes b)) := by
  constructor
  · intro h
    obtain ⟨front, hfront, hus⟩ := h
    rw [hus.eq_normalize, hfront.eq_cut]
  · rintro rfl
    exact ⟨_, upToZero_cut _, unmarked_normalize _⟩

theorem decode_eq_some_iff {b : Bytes} {s : String} :
    decode b = some s ↔ HoldsUnits b (Utf16.encode s.toList) := by
  rw [decode, Option.map_eq_some_iff, holdsUnits_iff, eq_comm, ← Utf16.decode_eq_some_iff]
  constructor
  · rintro ⟨cs, hcs, rfl⟩
    rwa [String.toList_ofList]
  · intro h
    exact ⟨s.toList, h, String.ofList_toList⟩

theorem readable_iff {b : Bytes} : Readable b ↔ ∃ s, decode b = some s := by
  constructor
  · intro h
    obtain ⟨us, hus, hformed⟩ := h
    obtain ⟨cs, hcs⟩ := Utf16.wellFormed_iff.1 hformed
    refine ⟨String.ofList cs, decode_eq_some_iff.2 ?_⟩
    rwa [String.toList_ofList, ← Utf16.decode_eq_some_iff.1 hcs]
  · intro h
    obtain ⟨s, hs⟩ := h
    exact ⟨_, decode_eq_some_iff.1 hs, Utf16.wellFormed_encode _⟩

theorem readable_iff_wellFormed {b : Bytes} :
    Readable b ↔ Utf16.WellFormed (normalize (cut (Utf16.ofBytes b))) := by
  simp only [Readable, holdsUnits_iff, exists_eq_left]

instance (b : Bytes) : Decidable (Readable b) :=
  decidable_of_iff _ readable_iff_wellFormed.symm

/-! ### Blocks that are written again as they were -/

/-- No mark stands in front, and behind the first zero unit there are only zeros. -/
structure Canonical (b : Bytes) : Prop where
  noMark : (Utf16.ofBytes b).head? ≠ some byteOrderMark
  noReversedMark : (Utf16.ofBytes b).head? ≠ some reversedMark
  zeros : ∀ front back, Utf16.ofBytes b = front ++ 0 :: back → 0 ∉ front →
    ∀ x ∈ b.drop (2 * front.length + 2), x = 0

theorem head?_cut {us : List UInt16} {u : UInt16} (hu : u ≠ 0) :
    (cut us).head? = some u ↔ us.head? = some u := by
  cases us with
  | nil => rfl
  | cons v us =>
    by_cases hv : v = 0
    · rw [hv, cut_cons_zero]
      simp [Ne.symm hu]
    · rw [cut_cons_of_ne us hv, List.head?_cons, List.head?_cons]

/-- A mark that was taken off is missed in the length of the text. -/
theorem normalize_eq_self_of_length_le {us : List UInt16}
    (h : us.length ≤ (normalize us).length) : normalize us = us := by
  revert h
  fun_cases normalize us with
  | case1 => simp
  | case2 rest => simp
  | case3 rest =>
    intro h
    simp only [List.length_map, List.length_cons] at h
    omega
  | case4 => simp

theorem noMark_iff {us : List UInt16} :
    normalize (cut us) = cut us ↔
      us.head? ≠ some byteOrderMark ∧ us.head? ≠ some reversedMark := by
  rw [normalize_eq_self_iff, ne_eq, ne_eq, head?_cut (by decide), head?_cut (by decide)]

theorem encode_of_decode {width : Nat} {b : Bytes} {s : String} (hwidth : b.length = width)
    (h : decode b = some s) :
    encode width s = Utf16.toBytes (normalize (cut (Utf16.ofBytes b))) ++
      List.replicate (width - 2 * (normalize (cut (Utf16.ofBytes b))).length) 0 := by
  have htext := holdsUnits_iff.1 (decode_eq_some_iff.1 h)
  have hnormal := length_normalize_le (cut (Utf16.ofBytes b))
  have hcut : (cut (Utf16.ofBytes b)).length ≤ (Utf16.ofBytes b).length :=
    (List.takeWhile_prefix _).length_le
  rw [Utf16.length_ofBytes, hwidth] at hcut
  rw [encode, htext, List.take_of_length_le (hnormal.trans hcut), Utf16.length_toBytes]

theorem toBytes_cut_append {b : Bytes} (heven : 2 ∣ b.length) :
    Utf16.toBytes (cut (Utf16.ofBytes b)) ++ b.drop (2 * (cut (Utf16.ofBytes b)).length) = b := by
  obtain ⟨back, hback⟩ : cut (Utf16.ofBytes b) <+: Utf16.ofBytes b := List.takeWhile_prefix _
  have hsplit : Utf16.toBytes (cut (Utf16.ofBytes b)) ++ Utf16.toBytes back = b := by
    rw [← Utf16.toBytes_append, hback, Utf16.toBytes_ofBytes b heven]
  have hdrop : (Utf16.toBytes (cut (Utf16.ofBytes b)) ++ Utf16.toBytes back).drop
      (2 * (cut (Utf16.ofBytes b)).length) = Utf16.toBytes back :=
    List.drop_left' (Utf16.length_toBytes _)
  rw [hsplit] at hdrop
  rw [hdrop, hsplit]

theorem zeros_iff {b : Bytes} (heven : 2 ∣ b.length) :
    (∀ front back, Utf16.ofBytes b = front ++ 0 :: back → 0 ∉ front →
      ∀ x ∈ b.drop (2 * front.length + 2), x = 0) ↔
    ∀ x ∈ b.drop (2 * (cut (Utf16.ofBytes b)).length), x = 0 := by
  constructor
  · intro h
    -- The first zero unit is itself two zero bytes, so the two sides differ by nothing else.
    have hunits := upToZero_cut (Utf16.ofBytes b)
    have hbytes := Utf16.toBytes_ofBytes b heven
    generalize hus : Utf16.ofBytes b = us at h hunits hbytes
    generalize cut us = front at hunits ⊢
    cases hunits with
    | zero back hfront =>
      have hzeros := h front back rfl hfront
      have hdrop : b.drop (2 * front.length) = [0, 0] ++ Utf16.toBytes back := by
        rw [← hbytes, Utf16.toBytes_append, Utf16.toBytes_cons]
        exact List.drop_left' (Utf16.length_toBytes front)
      rw [← List.drop_drop, hdrop] at hzeros
      rw [hdrop]
      simpa using hzeros
    | none hnone =>
      have hdrop : b.drop (2 * us.length) = [] := by
        rw [← hbytes]
        exact List.drop_eq_nil_of_le (Nat.le_of_eq (Utf16.length_toBytes us))
      rw [hdrop]
      simp
  · intro h front back hus hfront x hx
    have hcut : cut (Utf16.ofBytes b) = front := by
      rw [hus]
      exact (UpToZero.zero back hfront).eq_cut.symm
    rw [← List.drop_drop] at hx
    rw [hcut] at h
    exact h x (List.mem_of_mem_drop hx)

theorem normalize_eq_self_of_encode_eq {width : Nat} {b : Bytes} {s : String}
    (hwidth : b.length = width) (h : decode b = some s) (hsame : encode width s = b) :
    normalize (cut (Utf16.ofBytes b)) = cut (Utf16.ofBytes b) := by
  -- Had a mark been taken off, the written block would hold a unit less in front of its zeros.
  have hback : cut (Utf16.ofBytes b) = cut (normalize (cut (Utf16.ofBytes b))) := by
    conv => lhs; rw [← hsame, encode_of_decode hwidth h, Utf16.ofBytes_toBytes_append,
      Utf16.ofBytes_zeros, cut_append_zeros]
  apply normalize_eq_self_of_length_le
  conv => lhs; rw [hback]
  exact (List.takeWhile_prefix _).length_le

theorem encode_eq_iff {width : Nat} {b : Bytes} {s : String} (hwidth : b.length = width)
    (heven : 2 ∣ width) (h : decode b = some s) : encode width s = b ↔ Canonical b := by
  have hencode := encode_of_decode hwidth h
  have hbytes := toBytes_cut_append (hwidth ▸ heven)
  constructor
  · intro hsame
    have hnormal := normalize_eq_self_of_encode_eq hwidth h hsame
    obtain ⟨hmark, hreversed⟩ := noMark_iff.1 hnormal
    rw [hsame, hnormal] at hencode
    have hback := List.append_cancel_left (hbytes.trans hencode)
    refine ⟨hmark, hreversed, (zeros_iff (hwidth ▸ heven)).2 fun x hx => ?_⟩
    rw [hback] at hx
    exact List.eq_of_mem_replicate hx
  · intro hcanonical
    have hnormal := noMark_iff.2 ⟨hcanonical.noMark, hcanonical.noReversedMark⟩
    have hzeros := (zeros_iff (hwidth ▸ heven)).1 hcanonical.zeros
    have hback : b.drop (2 * (cut (Utf16.ofBytes b)).length) =
        List.replicate (width - 2 * (cut (Utf16.ofBytes b)).length) 0 :=
      List.eq_replicate_iff.2 ⟨by rw [List.length_drop, hwidth], hzeros⟩
    rw [hencode, hnormal, ← hback, hbytes]

/-! ### Texts whose block can be read -/

/-- The characters of a text up to the first NUL, which ends it. -/
def beforeNul (s : String) : List Char :=
  s.toList.takeWhile (· ≠ '\x00')

/-- What a block keeps of these characters can be read. The block must not end inside a
pair. Where the first character is taken for a mark, the units behind it are read with their
bytes exchanged. -/
inductive LeavesReadable (width : Nat) : List Char → Prop where
  | plain {cs : List Char} (hhead : cs.head? ≠ some '\uFFFE')
    (hpair : ¬Utf16.EndsInPair (width / 2) cs) : LeavesReadable width cs
  | reversed {cs : List Char}
    (hswapped : Utf16.WellFormed
      (((Utf16.encode cs).take (width / 2 - 1)).map Utf16.swapBytes)) :
    LeavesReadable width ('\uFFFE' :: cs)

theorem cut_encode (cs : List Char) :
    cut (Utf16.encode cs) = Utf16.encode (cs.takeWhile (· ≠ '\x00')) := by
  induction cs with
  | nil => rfl
  | cons c cs ih =>
    rw [Utf16.encode_cons]
    by_cases hc : c = '\x00'
    · have hzero : Utf16.unitsOf '\x00' = [0] := by decide
      rw [hc, hzero, List.singleton_append, cut_cons_zero]
      simp [Utf16.encode]
    · have hunits : 0 ∉ Utf16.unitsOf c := by
        rw [Utf16.mem_unitsOf_iff (by decide) (by decide)]
        exact hc
      rw [cut_append_of_not_mem _ hunits, ih, List.takeWhile_cons_of_pos (by simp [hc]),
        Utf16.encode_cons]

theorem cut_take (us : List UInt16) (k : Nat) : cut (us.take k) = (cut us).take k := by
  induction us generalizing k with
  | nil => simp [cut]
  | cons u us ih =>
    cases k with
    | zero => rfl
    | succ k =>
      rw [List.take_succ_cons]
      by_cases hu : u = 0
      · rw [hu, cut_cons_zero, cut_cons_zero, List.take_nil]
      · rw [cut_cons_of_ne _ hu, cut_cons_of_ne _ hu, List.take_succ_cons, ih]

theorem wellFormed_normalize_iff {us : List UInt16} (h : us.head? ≠ some reversedMark) :
    Utf16.WellFormed (normalize us) ↔ Utf16.WellFormed us := by
  fun_cases normalize us with
  | case1 => exact Iff.rfl
  | case2 rest => exact (Utf16.wellFormed_single_iff (by decide) (by decide)).symm
  | case3 rest => exact absurd rfl h
  | case4 => exact Iff.rfl

theorem leavesReadable_reversed_iff {width : Nat} {cs : List Char} :
    LeavesReadable width ('\uFFFE' :: cs) ↔ Utf16.WellFormed
      (((Utf16.encode cs).take (width / 2 - 1)).map Utf16.swapBytes) := by
  constructor
  · intro h
    cases h with
    | plain hhead _ => exact absurd rfl hhead
    | reversed hswapped => exact hswapped
  · exact .reversed

theorem leavesReadable_plain_iff {width : Nat} {cs : List Char}
    (h : cs.head? ≠ some '\uFFFE') :
    LeavesReadable width cs ↔ ¬Utf16.EndsInPair (width / 2) cs := by
  constructor
  · intro hleaves
    cases hleaves with
    | plain _ hpair => exact hpair
    | reversed _ => exact absurd rfl h
  · exact .plain h

theorem wellFormed_normalize_take_encode_iff {width : Nat} {cs : List Char} :
    Utf16.WellFormed (normalize ((Utf16.encode cs).take (width / 2))) ↔
      LeavesReadable width cs := by
  have hhead : ((Utf16.encode cs).take (width / 2)).head? = some reversedMark →
      cs.head? = some '\uFFFE' := by
    intro h
    rw [List.head?_take] at h
    split at h
    · contradiction
    · exact (Utf16.head?_encode_iff (by decide) (by decide)).1 h
  by_cases hmark : cs.head? = some '\uFFFE'
  · obtain ⟨rest, rfl⟩ := List.head?_eq_some_iff.1 hmark
    have hfirst : Utf16.unitsOf '\uFFFE' = [reversedMark] := by decide
    rw [leavesReadable_reversed_iff, Utf16.encode_cons, hfirst, List.singleton_append]
    -- A block without a unit keeps not even the mark.
    cases width / 2 with
    | zero => exact Iff.rfl
    | succ k => exact Iff.rfl
  · rw [wellFormed_normalize_iff fun h => hmark (hhead h), leavesReadable_plain_iff hmark,
      Utf16.wellFormed_take_encode_iff]

instance (width : Nat) (cs : List Char) : Decidable (LeavesReadable width cs) :=
  decidable_of_iff _ wellFormed_normalize_take_encode_iff

theorem readable_encode_iff {width : Nat} {s : String} :
    Readable (encode width s) ↔ LeavesReadable width (beforeNul s) := by
  rw [readable_iff_wellFormed, ofBytes_encode, cut_append_zeros, cut_take, cut_encode,
    wellFormed_normalize_take_encode_iff]
  rfl

end DetectorScan.TextBlock
