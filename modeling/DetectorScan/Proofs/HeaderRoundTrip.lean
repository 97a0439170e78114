import DetectorScan.Header.Basic
import DetectorScan.Proofs.Attempts
import DetectorScan.Proofs.TextBlocks
import Mathlib.Data.List.Forall2

/-!
# Headers that come back

A header is as long as its layout says, and reading it gives the header back exactly when
its two texts fit their blocks. A reader takes the fields one by one, so everything is
said of one field and of a list of fields that agree in kind with their values.
-/

namespace DetectorScan

/-! ### One field -/

def FieldKind.Holds (kind : FieldKind) (value : FieldValue) : Prop :=
  match kind with
  | .unsigned32 => ∃ n, value = .unsigned32 n
  | .signed32 => ∃ n, value = .signed32 n
  | .unsigned16 => ∃ n, value = .unsigned16 n
  | .real64 => ∃ x, value = .real64 x
  | .text _ => ∃ s, value = .text s

/-- Whether a value survives a field of the given width. Every number does. -/
def FieldValue.Fits (width : Nat) : FieldValue → Prop
  | .text s => TextBlock.Fits width s
  | _ => True

namespace FieldKind

theorem holds_of_decode {kind : FieldKind} {b : Bytes} {value : FieldValue}
    (h : kind.decode b = some value) : kind.Holds value := by
  cases kind with
  | unsigned32 => exact ⟨_, (Option.some.inj h).symm⟩
  | signed32 => exact ⟨_, (Option.some.inj h).symm⟩
  | unsigned16 => exact ⟨_, (Option.some.inj h).symm⟩
  | real64 => exact ⟨_, (Option.some.inj h).symm⟩
  | text width =>
    obtain ⟨s, -, rfl⟩ := Option.map_eq_some_iff.1 h
    exact ⟨s, rfl⟩

theorem Holds.length_encode {kind : FieldKind} {value : FieldValue} (h : kind.Holds value) :
    (value.encode kind.width).length = kind.width := by
  cases kind <;> obtain ⟨_, rfl⟩ := h
  case text width s => exact TextBlock.length_encode width s
  all_goals exact Bytes.length_ofNat ..

theorem Holds.decode_encode_iff {kind : FieldKind} {value : FieldValue} (h : kind.Holds value) :
    kind.decode (value.encode kind.width) = some value ↔ value.Fits kind.width := by
  cases kind with
  | unsigned32 =>
    obtain ⟨n, rfl⟩ := h
    have hback : Bytes.value (Bytes.ofNat 4 n.toNat) = n.toNat :=
      Bytes.value_ofNat_of_lt n.toNat_lt
    simp only [decode, FieldValue.encode, FieldValue.Fits, hback, UInt32.ofNat_toNat]
  | signed32 =>
    obtain ⟨n, rfl⟩ := h
    have hback : Bytes.value (Bytes.ofNat 4 n.toUInt32.toNat) = n.toUInt32.toNat :=
      Bytes.value_ofNat_of_lt n.toUInt32.toNat_lt
    have hsigned : Int32.ofNat n.toUInt32.toNat = n :=
      congrArg Int32.ofUInt32 UInt32.ofNat_toNat
    simp only [decode, FieldValue.encode, FieldValue.Fits, hback, hsigned]
  | unsigned16 =>
    obtain ⟨n, rfl⟩ := h
    have hback : Bytes.value (Bytes.ofNat 2 n.toNat) = n.toNat :=
      Bytes.value_ofNat_of_lt n.toNat_lt
    simp only [decode, FieldValue.encode, FieldValue.Fits, hback, UInt16.ofNat_toNat]
  | real64 =>
    obtain ⟨x, rfl⟩ := h
    have hback : Bytes.value (Bytes.ofNat 8 x.bits.toNat) = x.bits.toNat :=
      Bytes.value_ofNat_of_lt x.bits.toNat_lt
    simp only [decode, FieldValue.encode, FieldValue.Fits, Binary64.ofPattern, hback,
      UInt64.ofNat_toNat]
  | text width =>
    obtain ⟨s, rfl⟩ := h
    have htext : decode (.text width) (TextBlock.encode width s) = some (.text s)
        ↔ TextBlock.decode (TextBlock.encode width s) = some s := by
      simp [decode]
    exact htext.trans TextBlock.decode_encode_iff

end FieldKind

namespace Header

/-! ### Fields one after the other -/

abbrev Holding (fields : List Field) (values : List FieldValue) : Prop :=
  List.Forall₂ (fun field value => field.kind.Holds value) fields values

theorem encodeFields_cons (field : Field) (fields : List Field) (value : FieldValue)
    (values : List FieldValue) :
    encodeFields (field :: fields) (value :: values)
      = value.encode field.kind.width ++ encodeFields fields values :=
  List.flatMap_cons

theorem length_encodeFields {fields : List Field} {values : List FieldValue}
    (h : Holding fields values) : (encodeFields fields values).length = layoutSize fields := by
  induction h with
  | nil => rfl
  | cons hvalue _ ih =>
    rw [encodeFields_cons, List.length_append, hvalue.length_encode, ih]
    rfl

theorem decodeFields_cons_eq_ok_iff {field : Field} {fields : List Field} {b : Bytes}
    {values : List FieldValue} :
    decodeFields (field :: fields) b = .ok values ↔
      field.kind.width ≤ b.length ∧ ∃ value rest,
        field.kind.decode (b.take field.kind.width) = some value
          ∧ decodeFields fields (b.drop field.kind.width) = .ok rest ∧ values = value :: rest := by
  rw [decodeFields, Bytes.next]
  by_cases hwidth : field.kind.width ≤ b.length
  · rw [if_pos hwidth]
    cases hvalue : field.kind.decode (b.take field.kind.width) with
    | none => simp [hvalue, Attempt.refuse]
    | some value =>
      cases hrest : decodeFields fields (b.drop field.kind.width) with
      | error cause => simp [hvalue, hrest]
      | ok rest => simp [hvalue, hrest, hwidth, pure, Except.pure, eq_comm]
  · simp [hwidth]

theorem decodeFields_encodeFields_iff {fields : List Field} {values : List FieldValue}
    (h : Holding fields values) :
    decodeFields fields (encodeFields fields values) = .ok values
      ↔ List.Forall₂ (fun field value => value.Fits field.kind.width) fields values := by
  induction h with
  | nil => simp [decodeFields, pure, Except.pure]
  | @cons field value fields values hvalue _ ih =>
    have hlength := hvalue.length_encode
    rw [encodeFields_cons, decodeFields_cons_eq_ok_iff, List.take_left' hlength,
      List.drop_left' hlength, List.forall₂_cons, ← ih, ← hvalue.decode_encode_iff]
    constructor
    · rintro ⟨-, _, _, hfield, hfields, hcons⟩
      obtain ⟨rfl, rfl⟩ := List.cons.inj hcons
      exact ⟨hfield, hfields⟩
    · rintro ⟨hfield, hfields⟩
      refine ⟨?_, value, values, hfield, hfields, rfl⟩
      rw [List.length_append, hlength]
      exact Nat.le_add_right _ _

theorem holding_of_decodeFields {fields : List Field} {b : Bytes} {values : List FieldValue}
    (h : decodeFields fields b = .ok values) : Holding fields values := by
  induction fields generalizing b values with
  | nil =>
    obtain rfl : [] = values := Except.ok.inj h
    exact .nil
  | cons field fields ih =>
    obtain ⟨-, value, rest, hvalue, hrest, rfl⟩ := decodeFields_cons_eq_ok_iff.1 h
    exact .cons (FieldKind.holds_of_decode hvalue) (ih hrest)

/-! ### The fields of a header -/

theorem holding_values (h : Header) : Holding layout h.values := by
  simp [Holding, layout, values, FieldKind.Holds]

theorem exists_values_of_holding {values : List FieldValue} (h : Holding layout values) :
    ∃ header : Header, values = header.values := by
  -- The kinds of the layout, read off one by one, are those of the fields in their order.
  obtain _ | ⟨⟨magic, rfl⟩, _ | ⟨⟨name, rfl⟩, _ | ⟨⟨version, rfl⟩, _ | ⟨⟨headerSize, rfl⟩,
    _ | ⟨⟨description, rfl⟩, _ | ⟨⟨width, rfl⟩, _ | ⟨⟨height, rfl⟩, _ | ⟨⟨bitDepth, rfl⟩,
    _ | ⟨⟨bitDepthReal, rfl⟩, _ | ⟨⟨imageSizeBytes, rfl⟩, _ | ⟨⟨imageFormat, rfl⟩,
    _ | ⟨⟨allocatedFrames, rfl⟩, _ | ⟨⟨origin, rfl⟩, _ | ⟨⟨trueImageSize, rfl⟩,
    _ | ⟨⟨suggestedFrameRate, rfl⟩, _ | ⟨⟨descriptionFormat, rfl⟩, _ | ⟨⟨referenceFrame, rfl⟩,
    _ | ⟨⟨fixedSize, rfl⟩, _ | ⟨⟨flags, rfl⟩, _ | ⟨⟨bayerPattern, rfl⟩,
    _ | ⟨⟨timeOffsetMicros, rfl⟩, _ | ⟨⟨extendedHeaderSize, rfl⟩, _ | ⟨⟨compressionFormat, rfl⟩,
    _ | ⟨⟨referenceTimeSeconds, rfl⟩, _ | ⟨⟨referenceTimeMillis, rfl⟩,
    _ | ⟨⟨referenceTimeMicros, rfl⟩, _ | _⟩⟩⟩⟩⟩⟩⟩⟩⟩⟩⟩⟩⟩⟩⟩⟩⟩⟩⟩⟩⟩⟩⟩⟩⟩⟩ := h
  exact ⟨⟨magic, name, version, headerSize, description, width, height, bitDepth, bitDepthReal,
    imageSizeBytes, imageFormat, allocatedFrames, origin, trueImageSize, suggestedFrameRate,
    descriptionFormat, referenceFrame, fixedSize, flags, bayerPattern, timeOffsetMicros,
    extendedHeaderSize, compressionFormat, referenceTimeSeconds, referenceTimeMillis,
    referenceTimeMicros⟩, rfl⟩

theorem values_inj {h k : Header} : h.values = k.values ↔ h = k := by
  constructor
  · intro hvalues
    have hboth : ofValues h.values = ofValues k.values := congrArg ofValues hvalues
    rw [ofValues_values, ofValues_values] at hboth
    exact Except.ok.inj hboth
  · rintro rfl
    rfl

/-- Reading takes the values of the fields one by one, and these make up the header. -/
theorem decode_eq_ok_iff {b : Bytes} {h : Header} :
    decode b = .ok h ↔ size ≤ b.length ∧ decodeFields layout b = .ok h.values := by
  rw [decode]
  by_cases hsize : b.length < size
  · have hshort : ¬size ≤ b.length := Nat.not_le.2 hsize
    simp [hsize, hshort, Attempt.refuse]
  · have hlong : size ≤ b.length := Nat.not_lt.1 hsize
    cases hvalues : decodeFields layout b with
    | error cause => simp [hsize]
    | ok values =>
      obtain ⟨k, rfl⟩ := exists_values_of_holding (holding_of_decodeFields hvalues)
      simp [hsize, hlong, ofValues_values, values_inj]

/-- A header is written in as many bytes as its fields take, and reading them gives it back
exactly when both of its texts fit: up to 12 units for the name and 256 for the description. -/
theorem comes_back_iff_texts_fit (h : Header) :
    h.encode.length = size ∧
      (decode h.encode = .ok h ↔
        TextBlock.Fits 24 h.name ∧ TextBlock.Fits 512 h.description) := by
  have hlength : h.encode.length = size := length_encodeFields (holding_values h)
  refine ⟨hlength, ?_⟩
  rw [decode_eq_ok_iff, encode, decodeFields_encodeFields_iff (holding_values h)]
  have htexts : List.Forall₂ (fun field value => value.Fits field.kind.width) layout h.values
      ↔ TextBlock.Fits 24 h.name ∧ TextBlock.Fits 512 h.description := by
    simp [layout, values, FieldValue.Fits, FieldKind.width]
  rw [htexts]
  exact and_iff_right (Nat.le_of_eq hlength.symm)

end Header

end DetectorScan
