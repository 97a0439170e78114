import DetectorScan.Proofs.StoredFields

/-!
# Headers that are written

A header that is written keeps all of its numbers, and can be read unless one of its texts
leaves a block that cannot be read. A header that was read is written as it was stored
exactly when both of its texts were stored as texts are written.
-/

namespace DetectorScan

open Attempt

/-! ### Written slots -/

/-- The same number, or texts both. -/
def FieldValue.SameNumber : FieldValue → FieldValue → Prop
  | .text _, .text _ => True
  | value, other => other = value

theorem FieldKind.Holds.sameNumber {kind : FieldKind} {value other : FieldValue}
    (h : kind.Holds value) (hback : kind.decode (value.encode kind.width) = some other) :
    value.SameNumber other := by
  have hnumber : value.Fits kind.width → other = value := by
    intro hfits
    rw [h.decode_encode_iff.2 hfits] at hback
    exact (Option.some.inj hback).symm
  cases kind with
  | text width =>
    obtain ⟨s, rfl⟩ := h
    obtain ⟨t, rfl⟩ := holds_of_decode hback
    trivial
  | _ =>
    obtain ⟨_, rfl⟩ := h
    exact hnumber trivial

/-- A number is written as it was stored. -/
theorem FieldKind.encode_of_number {kind : FieldKind} {b : Bytes} {value : FieldValue}
    (hnumber : ¬kind.IsText) (hlength : b.length = kind.width) (h : kind.decode b = some value) :
    value.encode kind.width = b := by
  have hbytes := Bytes.ofNat_value b
  have hvalue := Bytes.value_lt b
  rw [hlength] at hbytes hvalue
  cases kind with
  | text width => exact absurd trivial hnumber
  | unsigned32 =>
    obtain rfl := Option.some.inj h
    rw [FieldValue.encode, UInt32.toNat_ofNat_of_lt' hvalue]
    exact hbytes
  | signed32 =>
    obtain rfl := Option.some.inj h
    have hsigned : (Int32.ofNat b.value).toUInt32.toNat = b.value :=
      UInt32.toNat_ofNat_of_lt' hvalue
    rw [FieldValue.encode, hsigned]
    exact hbytes
  | unsigned16 =>
    obtain rfl := Option.some.inj h
    rw [FieldValue.encode, UInt16.toNat_ofNat_of_lt' hvalue]
    exact hbytes
  | real64 =>
    obtain rfl := Option.some.inj h
    rw [FieldValue.encode, Binary64.ofPattern, UInt64.toNat_ofNat_of_lt' hvalue]
    exact hbytes

namespace Slot

/-- A text is stored as texts are written. -/
def Canonical (slot : Slot) : Prop :=
  slot.field.kind.IsText → TextBlock.Canonical slot.bytes

theorem encode_eq_iff {slot : Slot} {value : FieldValue}
    (hlength : slot.bytes.length = slot.field.kind.width) (heven : 2 ∣ slot.field.kind.width)
    (h : slot.value? = some value) :
    value.encode slot.field.kind.width = slot.bytes ↔ slot.Canonical := by
  obtain ⟨⟨name, kind⟩, b⟩ := slot
  cases kind with
  | text width =>
    obtain ⟨s, hs, rfl⟩ := Option.map_eq_some_iff.1 h
    simp only [Canonical, FieldKind.IsText, true_implies]
    exact TextBlock.encode_eq_iff hlength heven hs
  | _ => exact iff_of_true (FieldKind.encode_of_number id hlength h) False.elim

end Slot

namespace Header

theorem encodeFields_eq_take_iff {fields : List Field} {b : Bytes} {values : List FieldValue}
    (hlong : layoutSize fields ≤ b.length) (heven : ∀ field ∈ fields, 2 ∣ field.kind.width)
    (hvalues : List.Forall₂ (fun slot value => slot.value? = some value) (slots fields b) values) :
    encodeFields fields values = b.take (layoutSize fields) ↔
      ∀ slot ∈ slots fields b, slot.Canonical := by
  induction fields generalizing b values with
  | nil =>
    cases hvalues
    simp [encodeFields, layoutSize, slots]
  | cons field fields ih =>
    rw [layoutSize_cons] at hlong
    obtain ⟨value, rest, hvalue, hrest, rfl⟩ := List.forall₂_cons_left_iff.1 hvalues
    rw [List.forall_mem_cons] at heven
    have hfirst : (b.take field.kind.width).length = field.kind.width :=
      List.length_take_of_le (by omega)
    have hback : layoutSize fields ≤ (b.drop field.kind.width).length := by
      rw [List.length_drop]
      omega
    have hwritten : (value.encode field.kind.width).length = (b.take field.kind.width).length := by
      rw [(FieldKind.holds_of_decode hvalue).length_encode, hfirst]
    rw [encodeFields_cons, layoutSize_cons, List.take_add, slots, List.forall_mem_cons,
      ← ih hback heven.2 hrest]
    rw [← Slot.encode_eq_iff hfirst heven.1 hvalue]
    constructor
    · intro h
      exact List.append_inj h hwritten
    · intro h
      rw [h.1, h.2]

theorem slots_encodeFields {fields : List Field} {values : List FieldValue}
    (h : Holding fields values) :
    slots fields (encodeFields fields values) = List.zipWith
      (fun field value => ⟨field, value.encode field.kind.width⟩) fields values := by
  induction h with
  | nil => rfl
  | cons hvalue _ ih =>
    rw [encodeFields_cons, slots, List.take_left' hvalue.length_encode,
      List.drop_left' hvalue.length_encode, ih, List.zipWith_cons_cons]

theorem sameNumbers_of_written {fields : List Field} {values others : List FieldValue}
    (h : Holding fields values)
    (hothers : List.Forall₂ (fun slot value => slot.value? = some value)
      (slots fields (encodeFields fields values)) others) :
    List.Forall₂ FieldValue.SameNumber values others := by
  rw [slots_encodeFields h] at hothers
  induction h generalizing others with
  | nil =>
    cases hothers
    exact .nil
  | cons hvalue _ ih =>
    obtain ⟨other, rest, hother, hrest, rfl⟩ := List.forall₂_cons_left_iff.1 hothers
    exact .cons (hvalue.sameNumber hother) (ih hrest)

theorem nameBlock_encode (h : Header) : nameBlock h.encode = TextBlock.encode 24 h.name := by
  have hslot := getElem?_slots (show layout[1]? = some nameField from rfl) h.encode
  rw [encode, slots_encodeFields (holding_values h)] at hslot
  exact (congrArg Slot.bytes (Option.some.inj hslot)).symm

theorem descriptionBlock_encode (h : Header) :
    descriptionBlock h.encode = TextBlock.encode 512 h.description := by
  have hslot := getElem?_slots (show layout[4]? = some descriptionField from rfl) h.encode
  rw [encode, slots_encodeFields (holding_values h)] at hslot
  exact (congrArg Slot.bytes (Option.some.inj hslot)).symm

theorem eq_of_sameNumbers {h k : Header}
    (hsame : List.Forall₂ FieldValue.SameNumber h.values k.values) :
    k = { h with name := k.name, description := k.description } := by
  simp only [values, List.forall₂_cons, FieldValue.SameNumber, FieldValue.unsigned32.injEq,
    FieldValue.signed32.injEq, FieldValue.unsigned16.injEq, FieldValue.real64.injEq] at hsame
  obtain ⟨h₁, -, h₃, h₄, -, h₆, h₇, h₈, h₉, h₁₀, h₁₁, h₁₂, h₁₃, h₁₄, h₁₅, h₁₆, h₁₇, h₁₈, h₁₉,
    h₂₀, h₂₁, h₂₂, h₂₃, h₂₄, h₂₅, h₂₆, -⟩ := hsame
  obtain ⟨⟩ := k
  simp_all

/-! ### What comes back -/

theorem length_encode (h : Header) : h.encode.length = size :=
  length_encodeFields (holding_values h)

theorem exists_decode_encode_iff (h : Header) :
    (∃ k, decode h.encode = .ok k) ↔
      TextBlock.LeavesReadable 24 (TextBlock.beforeNul h.name) ∧
        TextBlock.LeavesReadable 512 (TextBlock.beforeNul h.description) := by
  rw [exists_decode_iff, nameBlock_encode, descriptionBlock_encode, TextBlock.readable_encode_iff,
    TextBlock.readable_encode_iff]
  exact and_iff_right (Nat.le_of_eq h.length_encode.symm)

/-- A header that is written is read again, with all its numbers, exactly when neither text
is cut inside a pair nor starts with a mark that spoils the rest. Otherwise the first text
that leaves a bad block is named. -/
theorem written_header_is_read_where_texts_stay_whole (h : Header) :
    ((∃ k, decode h.encode = .ok k) ↔
      TextBlock.LeavesReadable 24 (TextBlock.beforeNul h.name) ∧
        TextBlock.LeavesReadable 512 (TextBlock.beforeNul h.description)) ∧
    (∀ k, decode h.encode = .ok k →
      k = { h with name := k.name, description := k.description }) ∧
    (¬TextBlock.LeavesReadable 24 (TextBlock.beforeNul h.name) →
      decode h.encode = refuse (.invalidText "name")) ∧
    (TextBlock.LeavesReadable 24 (TextBlock.beforeNul h.name) →
      ¬TextBlock.LeavesReadable 512 (TextBlock.beforeNul h.description) →
      decode h.encode = refuse (.invalidText "description")) := by
  have hlong : size ≤ h.encode.length := Nat.le_of_eq h.length_encode.symm
  refine ⟨h.exists_decode_encode_iff, ?_, ?_, ?_⟩
  · intro k hk
    exact eq_of_sameNumbers (sameNumbers_of_written (holding_values h) (value?_of_decode hk))
  · intro hname
    refine decode_of_refusal (.name hlong ?_)
    rwa [nameBlock_encode, TextBlock.readable_encode_iff]
  · intro hname hdescription
    refine decode_of_refusal (.description hlong ?_ ?_)
    · rwa [nameBlock_encode, TextBlock.readable_encode_iff]
    · rwa [descriptionBlock_encode, TextBlock.readable_encode_iff]

theorem header_keeps_a_pair_at_the_end_of_its_name :
    TextBlock.LeavesReadable 24 (TextBlock.beforeNul "abcdefghij😀!") ∧
      (∃ k, decode ({ name := "abcdefghij😀!", width := 7 } : Header).encode = .ok k ∧
        k = { name := k.name, description := k.description, width := 7 }) ∧
      decode ({ name := "abcdefghijk😀" } : Header).encode = refuse (.invalidText "name") ∧
      decode ({ description := "\uFFFEØ" } : Header).encode =
        refuse (.invalidText "description") := by
  obtain ⟨hread, hnumbers, -, -⟩ :=
    written_header_is_read_where_texts_stay_whole { name := "abcdefghij😀!", width := 7 }
  obtain ⟨-, -, hname, -⟩ :=
    written_header_is_read_where_texts_stay_whole { name := "abcdefghijk😀" }
  obtain ⟨-, -, -, hdescription⟩ :=
    written_header_is_read_where_texts_stay_whole { description := "\uFFFEØ" }
  have hleaves : TextBlock.LeavesReadable 24 (TextBlock.beforeNul "abcdefghij😀!") := by
    decide +kernel
  obtain ⟨k, hk⟩ := hread.2 ⟨hleaves, by decide +kernel⟩
  refine ⟨hleaves, ⟨k, hk, hnumbers k hk⟩, hname ?_, hdescription ?_ ?_⟩
  · decide +kernel
  · decide +kernel
  · decide +kernel

theorem header_cut_inside_a_pair_is_not_read :
    ¬∃ k, decode ({ name := "abcdefghijk😀" } : Header).encode = .ok k := by
  rw [exists_decode_encode_iff]
  decide +kernel

/-- A header that was read is written as it was stored exactly when no mark stands in front
of its texts and nothing but zeros behind them. -/
theorem read_header_is_written_as_stored_iff {b : Bytes} {h : Header} (hdecode : decode b = .ok h) :
    h.encode = b.take size ↔
      TextBlock.Canonical (nameBlock b) ∧ TextBlock.Canonical (descriptionBlock b) := by
  obtain ⟨hlong, -⟩ := decode_eq_ok_iff.1 hdecode
  have htexts : (∀ slot ∈ slots layout b, slot.Canonical) ↔
      TextBlock.Canonical (nameBlock b) ∧ TextBlock.Canonical (descriptionBlock b) := by
    rw [forall_slots_layout_iff b fun slot hnumber htext => absurd htext hnumber]
    simp [Slot.Canonical, nameField, descriptionField, FieldKind.IsText]
  rw [← htexts]
  exact encodeFields_eq_take_iff hlong (by decide) (value?_of_decode hdecode)

/-- The name of this header stands behind a mark. -/
def markedName : Bytes :=
  List.replicate 4 0 ++ ([0xFF, 0xFE, 0x41, 0x00] ++ List.replicate 624 0)

end Header

theorem small_header_is_written_as_stored :
    Header.decode SmallRecording.content.toBytes = .ok SmallRecording.header ∧
      TextBlock.Canonical (Header.nameBlock SmallRecording.content.toBytes) ∧
      Header.decode Header.markedName = .ok { name := "A" } ∧
      ({ name := "A" } : Header).encode ≠ Header.markedName.take Header.size := by
  have hstored : SmallRecording.header.encode =
      SmallRecording.content.toBytes.take Header.size := by
    rw [SmallRecording.content, FileContent.toBytes_ofBytes,
      List.take_left' (Header.length_encode _)]
  have hmarked : Header.decode Header.markedName = .ok { name := "A" } := by decide +kernel
  refine ⟨SmallRecording.header_decode, ?_, hmarked, ?_⟩
  · exact ((Header.read_header_is_written_as_stored_iff SmallRecording.header_decode).1 hstored).1
  · intro hsame
    have hcanonical := (Header.read_header_is_written_as_stored_iff hmarked).1 hsame
    exact hcanonical.1.noMark (by decide)

end DetectorScan
