import DetectorScan.Proofs.WrittenHeaders

/-!
# Headers that are read, written and read again

A text that was read from a block fits the block and holds no zero, so writing it loses
nothing. Only a mark can get lost: a block with two marks gives a text that itself starts
with one, which is taken off when the text is read for the second time.
-/

namespace DetectorScan

namespace TextBlock

/-! ### Two marks -/

/-- A byte order mark, read forwards or backwards. -/
def IsMark (u : UInt16) : Prop :=
  u = byteOrderMark ∨ u = reversedMark

instance : DecidablePred IsMark :=
  fun u => inferInstanceAs (Decidable (u = byteOrderMark ∨ u = reversedMark))

/-- Units that start with two marks. -/
def StartsWithTwoMarks : List UInt16 → Prop
  | u :: v :: _ => IsMark u ∧ IsMark v
  | _ => False

instance : DecidablePred StartsWithTwoMarks
  | [] | [_] => .isFalse id
  | u :: v :: _ => inferInstanceAs (Decidable (IsMark u ∧ IsMark v))

def MarkedTwice (b : Bytes) : Prop :=
  StartsWithTwoMarks (Utf16.ofBytes b)

instance (b : Bytes) : Decidable (MarkedTwice b) :=
  inferInstanceAs (Decidable (StartsWithTwoMarks _))

theorem swapBytes_eq_iff {u v : UInt16} : Utf16.swapBytes u = v ↔ u = Utf16.swapBytes v := by
  constructor
  · rintro rfl
    exact (Utf16.swapBytes_swapBytes u).symm
  · rintro rfl
    exact Utf16.swapBytes_swapBytes v

theorem isMark_swapBytes_iff {u : UInt16} : IsMark (Utf16.swapBytes u) ↔ IsMark u := by
  have hmark : Utf16.swapBytes byteOrderMark = reversedMark := by decide
  have hreversed : Utf16.swapBytes reversedMark = byteOrderMark := by decide
  rw [IsMark, IsMark, swapBytes_eq_iff, swapBytes_eq_iff, hmark, hreversed]
  exact or_comm

theorem ne_zero_of_isMark {u : UInt16} (h : IsMark u) : u ≠ 0 := by
  rcases h with rfl | rfl
  · decide
  · decide

theorem startsWithTwoMarks_cons_iff {u : UInt16} {us : List UInt16} :
    StartsWithTwoMarks (u :: us) ↔ IsMark u ∧ ∃ v, us.head? = some v ∧ IsMark v := by
  cases us with
  | nil => simp [StartsWithTwoMarks]
  | cons v us => simp [StartsWithTwoMarks]

theorem startsWithTwoMarks_cut_iff {us : List UInt16} :
    StartsWithTwoMarks (cut us) ↔ StartsWithTwoMarks us := by
  cases us with
  | nil => rfl
  | cons u us =>
    by_cases hu : u = 0
    · have hfirst : ¬StartsWithTwoMarks (u :: us) := fun h =>
        ne_zero_of_isMark (startsWithTwoMarks_cons_iff.1 h).1 hu
      rw [hu, cut_cons_zero, ← hu]
      exact iff_of_false id hfirst
    · rw [cut_cons_of_ne us hu, startsWithTwoMarks_cons_iff, startsWithTwoMarks_cons_iff]
      refine and_congr_right fun _ => exists_congr fun v => and_congr_left fun hv => ?_
      exact head?_cut (ne_zero_of_isMark hv)

/-- A text starts with a mark where its block has a second one behind the first. -/
theorem isMark_head?_normalize_iff {us : List UInt16} :
    (∃ u, (normalize us).head? = some u ∧ IsMark u) ↔ StartsWithTwoMarks us := by
  fun_cases normalize us with
  | case1 => simp [StartsWithTwoMarks]
  | case2 rest =>
    rw [startsWithTwoMarks_cons_iff]
    exact (and_iff_right (.inl rfl)).symm
  | case3 rest =>
    rw [startsWithTwoMarks_cons_iff, List.head?_map, and_iff_right (.inr rfl)]
    simp [isMark_swapBytes_iff]
  | case4 u rest hmark hreversed =>
    rw [startsWithTwoMarks_cons_iff]
    simp [IsMark, hmark, hreversed]

/-! ### Texts that were read -/

theorem zero_notMem_normalize_cut (us : List UInt16) : 0 ∉ normalize (cut us) := by
  have hcut : 0 ∉ cut us := by
    intro hzero
    simpa using List.mem_takeWhile_imp hzero
  revert hcut
  fun_cases normalize (cut us) with
  | case1 => exact id
  | case2 rest => exact fun h => mt (List.mem_cons_of_mem _) h
  | case3 rest =>
    intro h hzero
    obtain ⟨u, hu, hswap⟩ := List.mem_map.1 hzero
    have hback : Utf16.swapBytes 0 = 0 := by decide
    rw [swapBytes_eq_iff, hback] at hswap
    exact h (List.mem_cons_of_mem _ (hswap ▸ hu))
  | case4 => exact id

/-- Writing a text that was read from a block of the same width loses none of its units. -/
theorem cut_take_encode_of_holdsUnits {width : Nat} {b : Bytes} {s : String}
    (hwidth : b.length = width) (h : HoldsUnits b (Utf16.encode s.toList)) :
    cut ((Utf16.encode s.toList).take (width / 2)) = Utf16.encode s.toList := by
  have hnormal := length_normalize_le (cut (Utf16.ofBytes b))
  have hcut : (cut (Utf16.ofBytes b)).length ≤ (Utf16.ofBytes b).length :=
    (List.takeWhile_prefix _).length_le
  rw [Utf16.length_ofBytes, hwidth] at hcut
  rw [holdsUnits_iff.1 h, List.take_of_length_le (hnormal.trans hcut), cut_eq_self_iff]
  exact zero_notMem_normalize_cut _

/-- What is read again is the text without the mark that it may start with. -/
theorem holdsUnits_encode_iff {width : Nat} {b : Bytes} {s : String} {us : List UInt16}
    (hwidth : b.length = width) (h : HoldsUnits b (Utf16.encode s.toList)) :
    HoldsUnits (encode width s) us ↔ Unmarked (Utf16.encode s.toList) us := by
  rw [holdsUnits_iff, ofBytes_encode, cut_append_zeros, cut_take_encode_of_holdsUnits hwidth h]
  constructor
  · rintro rfl
    exact unmarked_normalize _
  · exact Unmarked.eq_normalize

theorem unmarked_self_iff {b : Bytes} {us : List UInt16} (h : HoldsUnits b us) :
    Unmarked us us ↔ ¬MarkedTwice b := by
  have hself : Unmarked us us ↔ normalize us = us := by
    constructor
    · exact fun hus => hus.eq_normalize.symm
    · intro hus
      conv => arg 2; rw [← hus]
      exact unmarked_normalize us
  rw [hself, normalize_eq_self_iff, MarkedTwice, ← startsWithTwoMarks_cut_iff,
    ← isMark_head?_normalize_iff, ← holdsUnits_iff.1 h]
  cases us.head? with
  | none => simp
  | some u => simp [IsMark]

end TextBlock

namespace Header

open TextBlock

variable {b : Bytes} {h k : Header}

/-! ### The two texts -/

theorem name_of_decode (hdecode : decode b = .ok h) :
    HoldsUnits (nameBlock b) (Utf16.encode h.name.toList) := by
  obtain ⟨value, hvalue, hstores⟩ :=
    stores_of_decode hdecode (show layout[1]? = some nameField from rfl)
  obtain rfl : .text h.name = value := Option.some.inj hvalue
  cases hstores with
  | text hunits => exact hunits

theorem description_of_decode (hdecode : decode b = .ok h) :
    HoldsUnits (descriptionBlock b) (Utf16.encode h.description.toList) := by
  obtain ⟨value, hvalue, hstores⟩ :=
    stores_of_decode hdecode (show layout[4]? = some descriptionField from rfl)
  obtain rfl : .text h.description = value := Option.some.inj hvalue
  cases hstores with
  | text hunits => exact hunits

/-! ### The second reading -/

/-- What is read from a header that was written after it was read: all of its numbers, and
each text behind the mark that it may start with. -/
theorem decode_encode_of_decode_iff (hdecode : decode b = .ok h) :
    decode h.encode = .ok k ↔
      k = { h with name := k.name, description := k.description } ∧
      Unmarked (Utf16.encode h.name.toList) (Utf16.encode k.name.toList) ∧
      Unmarked (Utf16.encode h.description.toList) (Utf16.encode k.description.toList) := by
  obtain ⟨hlong, -⟩ := decode_eq_ok_iff.1 hdecode
  have hname : (nameBlock b).length = 24 := by
    rw [size_eq] at hlong
    rw [nameBlock, List.length_take, List.length_drop]
    omega
  have hdescription : (descriptionBlock b).length = 512 := by
    rw [size_eq] at hlong
    rw [descriptionBlock, List.length_take, List.length_drop]
    omega
  rw [← holdsUnits_encode_iff hname (name_of_decode hdecode),
    ← holdsUnits_encode_iff hdescription (description_of_decode hdecode), ← nameBlock_encode,
    ← descriptionBlock_encode, ← decode_eq_some_iff, ← decode_eq_some_iff]
  have hnumbers : ∀ other, decode h.encode = .ok other →
      other = { h with name := other.name, description := other.description } := fun other hother =>
    eq_of_sameNumbers (sameNumbers_of_written (holding_values h) (value?_of_decode hother))
  constructor
  · intro hk
    exact ⟨hnumbers k hk, decode_eq_some_iff.2 (name_of_decode hk),
      decode_eq_some_iff.2 (description_of_decode hk)⟩
  · rintro ⟨hk, hkname, hkdescription⟩
    -- Both texts can be read, so there is a header, and each of its parts is that of `k`.
    obtain ⟨other, hother⟩ := exists_decode_iff.2
      ⟨Nat.le_of_eq h.length_encode.symm, readable_iff.2 ⟨_, hkname⟩,
        readable_iff.2 ⟨_, hkdescription⟩⟩
    have hothername := decode_eq_some_iff.2 (name_of_decode hother)
    have hotherdescription := decode_eq_some_iff.2 (description_of_decode hother)
    rw [hkname] at hothername
    rw [hkdescription] at hotherdescription
    rw [hother, hnumbers other hother, hk, Option.some.inj hothername,
      Option.some.inj hotherdescription]

/-- A header that was read comes back when it is written and read again, unless one of its
texts stood behind two marks. Whatever comes back has all the numbers, and its texts are those
of the header without the mark in front. -/
theorem read_header_comes_back_iff (hdecode : decode b = .ok h) :
    (decode h.encode = .ok h ↔
      ¬MarkedTwice (nameBlock b) ∧ ¬MarkedTwice (descriptionBlock b)) ∧
    ∀ k, decode h.encode = .ok k ↔
      k = { h with name := k.name, description := k.description } ∧
      Unmarked (Utf16.encode h.name.toList) (Utf16.encode k.name.toList) ∧
      Unmarked (Utf16.encode h.description.toList) (Utf16.encode k.description.toList) := by
  refine ⟨?_, fun k => decode_encode_of_decode_iff hdecode⟩
  rw [decode_encode_of_decode_iff hdecode, unmarked_self_iff (name_of_decode hdecode),
    unmarked_self_iff (description_of_decode hdecode)]
  exact and_iff_right rfl

/-- The name of this header stands behind two marks. -/
def twiceMarkedName : Bytes :=
  List.replicate 4 0 ++ ([0xFF, 0xFE, 0xFF, 0xFE, 0x41, 0x00] ++ List.replicate 622 0)

theorem decode_twiceMarkedName : decode twiceMarkedName = .ok { name := "\uFEFFA" } := by
  decide +kernel

theorem marked_name_comes_back_once :
    decode markedName = .ok { name := "A" } ∧
      decode ({ name := "A" } : Header).encode = .ok { name := "A" } ∧
      decode twiceMarkedName = .ok { name := "\uFEFFA" } ∧
      decode ({ name := "\uFEFFA" } : Header).encode = .ok { name := "A" } := by
  have hmarked : decode markedName = .ok { name := "A" } := by decide +kernel
  obtain ⟨hback, -⟩ := read_header_comes_back_iff hmarked
  obtain ⟨-, hagain⟩ := read_header_comes_back_iff decode_twiceMarkedName
  refine ⟨hmarked, hback.2 ?_, decode_twiceMarkedName, (hagain _).2 ⟨rfl, ?_, ?_⟩⟩
  · decide +kernel
  · exact .mark _
  · exact .none (by decide) (by decide)

theorem twice_marked_name_does_not_come_back :
    ¬∀ (b : Bytes) (h : Header), decode b = .ok h → decode h.encode = .ok h := by
  intro hall
  have hback := hall _ _ decode_twiceMarkedName
  have hother : decode ({ name := "\uFEFFA" } : Header).encode = .ok { name := "A" } := by
    decide +kernel
  rw [hother] at hback
  exact absurd (Except.ok.inj hback) (by decide)

end Header

end DetectorScan
