import DetectorScan.Text.Utf16

/-!
# Texts and their units

A character is either one unit outside the surrogates or a pair of surrogates, and a list
of units is read as at most one text: `decode us = some cs` exactly when `us` are the
units of `cs`. A unit outside the surrogates stands for the character of its number
wherever it occurs.
-/

namespace DetectorScan.Utf16

theorem isHigh_iff {u : UInt16} : isHigh u = true ↔ 0xD800 ≤ u.toNat ∧ u.toNat < 0xDC00 := by
  simp [isHigh]

theorem isLow_iff {u : UInt16} : isLow u = true ↔ 0xDC00 ≤ u.toNat ∧ u.toNat < 0xE000 := by
  simp [isLow]

theorem decode_single {u : UInt16} (rest : List UInt16) (hhigh : ¬isHigh u) (hlow : ¬isLow u) :
    decode (u :: rest) = (decode rest).map (Char.ofNat u.toNat :: ·) := by
  cases rest <;> rw [decode.eq_def] <;> simp [hhigh, hlow]

theorem decode_pair {u v : UInt16} (rest : List UInt16) (hhigh : isHigh u) (hlow : isLow v) :
    decode (u :: v :: rest) = (decode rest).map (pair u v :: ·) := by
  rw [decode.eq_def]
  simp [hhigh, hlow]

/-! ### The units of a character -/

theorem toNat_ofNat_of_isValidChar {n : Nat} (h : n.isValidChar) : (Char.ofNat n).toNat = n := by
  rw [Char.ofNat, dif_pos h]
  rfl

theorem unitsOf_single {u : UInt16} (hhigh : ¬isHigh u) (hlow : ¬isLow u) :
    unitsOf (Char.ofNat u.toNat) = [u] := by
  have hu : u.toNat < 0x10000 := u.toNat_lt
  rw [isHigh_iff] at hhigh
  rw [isLow_iff] at hlow
  have hc : (Char.ofNat u.toNat).toNat = u.toNat := toNat_ofNat_of_isValidChar (by omega)
  rw [unitsOf, if_pos (by omega), hc, UInt16.ofNat_toNat]

theorem unitsOf_pair {u v : UInt16} (hhigh : isHigh u) (hlow : isLow v) :
    unitsOf (pair u v) = [u, v] := by
  rw [isHigh_iff] at hhigh
  rw [isLow_iff] at hlow
  have hc : (pair u v).toNat = 0x10000 + (u.toNat - 0xD800) * 0x400 + (v.toNat - 0xDC00) :=
    toNat_ofNat_of_isValidChar (by omega)
  have hfirst : 0xD800 + ((pair u v).toNat - 0x10000) / 0x400 = u.toNat := by omega
  have hsecond : 0xDC00 + ((pair u v).toNat - 0x10000) % 0x400 = v.toNat := by omega
  rw [unitsOf, if_neg (by omega), hfirst, hsecond, UInt16.ofNat_toNat, UInt16.ofNat_toNat]

/-- Every character comes from its units as `decode` takes them. -/
theorem single_or_pair (c : Char) :
    (∃ u, ¬isHigh u ∧ ¬isLow u ∧ Char.ofNat u.toNat = c)
      ∨ ∃ u v, isHigh u ∧ isLow v ∧ pair u v = c := by
  have hvalid : c.toNat < 0xD800 ∨ 0xDFFF < c.toNat ∧ c.toNat < 0x110000 := c.valid
  by_cases h : c.toNat < 0x10000
  · have hu : (UInt16.ofNat c.toNat).toNat = c.toNat := UInt16.toNat_ofNat_of_lt h
    refine .inl ⟨UInt16.ofNat c.toNat, ?_, ?_, ?_⟩
    · rw [isHigh_iff, hu]
      omega
    · rw [isLow_iff, hu]
      omega
    · rw [hu, Char.ofNat_toNat]
  · obtain ⟨n, hn⟩ := Nat.exists_eq_add_of_le (Nat.not_lt.1 h)
    have hu : (UInt16.ofNat (0xD800 + n / 0x400)).toNat = 0xD800 + n / 0x400 :=
      UInt16.toNat_ofNat_of_lt (show _ < 0x10000 by omega)
    have hv : (UInt16.ofNat (0xDC00 + n % 0x400)).toNat = 0xDC00 + n % 0x400 :=
      UInt16.toNat_ofNat_of_lt (show _ < 0x10000 by omega)
    refine .inr ⟨UInt16.ofNat (0xD800 + n / 0x400), UInt16.ofNat (0xDC00 + n % 0x400), ?_, ?_, ?_⟩
    · rw [isHigh_iff, hu]
      omega
    · rw [isLow_iff, hv]
      omega
    · have hnumber : 0x10000 + (0xD800 + n / 0x400 - 0xD800) * 0x400
          + (0xDC00 + n % 0x400 - 0xDC00) = c.toNat := by omega
      rw [pair, hu, hv, hnumber, Char.ofNat_toNat]

theorem mem_unitsOf_iff {u : UInt16} {c : Char} (hhigh : ¬isHigh u) (hlow : ¬isLow u) :
    u ∈ unitsOf c ↔ c = Char.ofNat u.toNat := by
  constructor
  · intro hmem
    rcases single_or_pair c with ⟨v, hv, hv', rfl⟩ | ⟨v, w, hv, hw, rfl⟩
    · rw [unitsOf_single hv hv', List.mem_singleton] at hmem
      rw [hmem]
    · rw [unitsOf_pair hv hw, List.mem_cons, List.mem_singleton] at hmem
      rcases hmem with rfl | rfl
      · exact absurd hv hhigh
      · exact absurd hw hlow
  · rintro rfl
    rw [unitsOf_single hhigh hlow]
    exact List.mem_singleton_self u

theorem head?_unitsOf_append {u : UInt16} {c : Char} (rest : List UInt16)
    (hhigh : ¬isHigh u) (hlow : ¬isLow u) :
    (unitsOf c ++ rest).head? = some u ↔ c = Char.ofNat u.toNat := by
  constructor
  · intro hhead
    refine (mem_unitsOf_iff hhigh hlow).1 ?_
    rcases single_or_pair c with ⟨v, hv, hv', rfl⟩ | ⟨v, w, hv, hw, rfl⟩
    · rw [unitsOf_single hv hv'] at hhead ⊢
      exact List.mem_of_head? hhead
    · rw [unitsOf_pair hv hw] at hhead ⊢
      exact List.mem_of_head? hhead
  · rintro rfl
    rw [unitsOf_single hhigh hlow]
    rfl

/-! ### The units of a text -/

theorem encode_cons (c : Char) (cs : List Char) : encode (c :: cs) = unitsOf c ++ encode cs :=
  List.flatMap_cons

theorem decode_encode (cs : List Char) : decode (encode cs) = some cs := by
  induction cs with
  | nil => rfl
  | cons c cs ih =>
    rcases single_or_pair c with ⟨u, hhigh, hlow, rfl⟩ | ⟨u, v, hhigh, hlow, rfl⟩
    · rw [encode_cons, unitsOf_single hhigh hlow, List.singleton_append,
        decode_single _ hhigh hlow, ih, Option.map_some]
    · rw [encode_cons, unitsOf_pair hhigh hlow, List.cons_append, List.singleton_append,
        decode_pair _ hhigh hlow, ih, Option.map_some]

theorem encode_of_decode {us : List UInt16} {cs : List Char} (h : decode us = some cs) :
    encode cs = us := by
  fun_induction decode us generalizing cs with
  | case1 =>
    obtain rfl := Option.some.inj h
    rfl
  | case2 u hhigh v rest hlow ih =>
    obtain ⟨ds, hds, rfl⟩ := Option.map_eq_some_iff.1 h
    rw [encode_cons, unitsOf_pair hhigh hlow, ih hds]
    rfl
  | case3 => simp at h
  | case4 => simp at h
  | case5 => simp at h
  | case6 u rest hhigh hlow ih =>
    obtain ⟨ds, hds, rfl⟩ := Option.map_eq_some_iff.1 h
    rw [encode_cons, unitsOf_single hhigh hlow, ih hds]
    rfl

theorem decode_eq_some_iff {us : List UInt16} {cs : List Char} :
    decode us = some cs ↔ us = encode cs :=
  ⟨fun h => (encode_of_decode h).symm, fun h => h ▸ decode_encode cs⟩

theorem mem_encode_iff {u : UInt16} {cs : List Char} (hhigh : ¬isHigh u) (hlow : ¬isLow u) :
    u ∈ encode cs ↔ Char.ofNat u.toNat ∈ cs := by
  simp only [encode, List.mem_flatMap, mem_unitsOf_iff hhigh hlow, exists_eq_right]

theorem head?_encode_iff {u : UInt16} {cs : List Char} (hhigh : ¬isHigh u) (hlow : ¬isLow u) :
    (encode cs).head? = some u ↔ cs.head? = some (Char.ofNat u.toNat) := by
  cases cs with
  | nil => simp [encode]
  | cons c cs =>
    rw [encode_cons, head?_unitsOf_append _ hhigh hlow, List.head?_cons, Option.some_inj]

/-! ### Stored units -/

theorem ofBytes_toBytes_append (us : List UInt16) (b : Bytes) :
    ofBytes (toBytes us ++ b) = us ++ ofBytes b := by
  induction us with
  | nil => rfl
  | cons u us ih =>
    simp only [toBytes, List.flatMap_cons, List.append_assoc, ofBytes] at ih ⊢
    rw [Bytes.items_append _ (Bytes.length_ofNat 2 u.toNat) (by decide), List.map_cons, ih,
      Bytes.value_ofNat_of_lt u.toNat_lt, UInt16.ofNat_toNat]
    rfl

theorem ofBytes_zeros (n : Nat) :
    ofBytes (List.replicate n 0) = List.replicate (n / 2) 0 := by
  match n with
  | 0 => rfl
  | 1 => rfl
  | n + 2 =>
    have hsplit : List.replicate (n + 2) (0 : UInt8) = [0, 0] ++ List.replicate n 0 := rfl
    have hrest := ofBytes_zeros n
    have hfirst : Bytes.items 2 ([0, 0] ++ List.replicate n 0)
        = 0 :: Bytes.items 2 (List.replicate n 0) := Bytes.items_append _ rfl (by decide)
    rw [ofBytes] at hrest ⊢
    rw [hsplit, hfirst, List.map_cons, hrest, Nat.add_div_right _ (by decide),
      List.replicate_succ]
    rfl

theorem length_ofBytes (b : Bytes) : (ofBytes b).length = b.length / 2 := by
  rw [ofBytes, List.length_map, Bytes.length_items]

theorem toBytes_cons (u : UInt16) (us : List UInt16) :
    toBytes (u :: us) = Bytes.ofNat 2 u.toNat ++ toBytes us :=
  List.flatMap_cons

theorem toBytes_append (us vs : List UInt16) :
    toBytes (us ++ vs) = toBytes us ++ toBytes vs :=
  List.flatMap_append

theorem toBytes_ofBytes (b : Bytes) (h : 2 ∣ b.length) : toBytes (ofBytes b) = b := by
  match b with
  | [] => rfl
  | [x] => simp at h
  | x :: y :: rest =>
    have hrest : 2 ∣ rest.length := by
      simp only [List.length_cons] at h
      omega
    have hunit : Bytes.value [x, y] < UInt16.size :=
      Nat.lt_of_lt_of_eq (Bytes.value_lt [x, y]) (show Nat.pow 256 2 = UInt16.size by decide)
    have hitems : Bytes.items 2 ([x, y] ++ rest) = Bytes.value [x, y] :: Bytes.items 2 rest :=
      Bytes.items_append rest rfl (by decide)
    have hfirst : ofBytes ([x, y] ++ rest) =
        UInt16.ofNat (Bytes.value [x, y]) :: ofBytes rest := by
      rw [ofBytes, hitems, List.map_cons, ofBytes]
    have hback : toBytes (ofBytes ([x, y] ++ rest)) = [x, y] ++ rest := by
      rw [hfirst, toBytes_cons, UInt16.toNat_ofNat_of_lt' hunit, toBytes_ofBytes rest hrest]
      exact congrArg (· ++ rest) (Bytes.ofNat_value [x, y])
    exact hback

end DetectorScan.Utf16
