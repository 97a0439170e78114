import DetectorScan.Proofs.BlockTexts
import DetectorScan.Proofs.HeaderRoundTrip
import DetectorScan.Proofs.OpenedDataset
import Mathlib.Algebra.Group.Nat.Defs

/-!
# Fields in their places

A header is read slot by slot: each field has its bytes behind those of the fields before
it, and stands for the value that these bytes store. Only a block of text can be refused, so
that a header is read exactly when it is long enough and both of its texts can be read.
-/

namespace DetectorScan

open Attempt

theorem mapM_eq_ok_iff {ε α β : Type} {f : α → Except ε β} {xs : List α} {ys : List β} :
    xs.mapM f = .ok ys ↔ List.Forall₂ (fun x y => f x = .ok y) xs ys := by
  induction xs generalizing ys with
  | nil => simp [pure, Except.pure, eq_comm]
  | cons x xs ih =>
    rw [List.mapM_cons, List.forall₂_cons_left_iff, bind_eq_ok]
    constructor
    · intro h
      obtain ⟨y, hy, h⟩ := h
      obtain ⟨rest, hrest, h⟩ := bind_eq_ok.1 h
      exact ⟨y, rest, hy, ih.1 hrest, (Except.ok.inj h).symm⟩
    · intro h
      obtain ⟨y, rest, hy, hrest, rfl⟩ := h
      exact ⟨y, hy, bind_eq_ok.2 ⟨rest, ih.2 hrest, rfl⟩⟩

/-! ### What the bytes of a field store -/

namespace FieldKind

/-- The value that the bytes of a field stand for. Numbers have their least significant byte
first, and negative ones are stored as two's complements. -/
inductive Stores : FieldKind → Bytes → FieldValue → Prop where
  | unsigned32 {b : Bytes} {n : UInt32} (h : n.toNat = b.value) :
    Stores .unsigned32 b (.unsigned32 n)
  | signed32 {b : Bytes} {n : Int32} (h : n.toInt = Int.bmod b.value (2 ^ 32)) :
    Stores .signed32 b (.signed32 n)
  | unsigned16 {b : Bytes} {n : UInt16} (h : n.toNat = b.value) :
    Stores .unsigned16 b (.unsigned16 n)
  | real64 {b : Bytes} {x : Binary64} (h : x.bits.toNat = b.value) :
    Stores .real64 b (.real64 x)
  | text {width : Nat} {b : Bytes} {s : String}
    (h : TextBlock.HoldsUnits b (Utf16.encode s.toList)) : Stores (.text width) b (.text s)

theorem stores_of_decode {kind : FieldKind} {b : Bytes} {value : FieldValue}
    (hlength : b.length = kind.width) (h : kind.decode b = some value) :
    kind.Stores b value := by
  have hvalue := Bytes.value_lt b
  rw [hlength] at hvalue
  cases kind with
  | unsigned32 =>
    obtain rfl := Option.some.inj h
    exact .unsigned32 (UInt32.toNat_ofNat_of_lt' hvalue)
  | signed32 =>
    obtain rfl := Option.some.inj h
    exact .signed32 Int32.toInt_ofNat'
  | unsigned16 =>
    obtain rfl := Option.some.inj h
    exact .unsigned16 (UInt16.toNat_ofNat_of_lt' hvalue)
  | real64 =>
    obtain rfl := Option.some.inj h
    exact .real64 (UInt64.toNat_ofNat_of_lt' hvalue)
  | text width =>
    obtain ⟨s, hs, rfl⟩ := Option.map_eq_some_iff.1 h
    exact .text (TextBlock.decode_eq_some_iff.1 hs)

def IsText : FieldKind → Prop
  | .text _ => True
  | _ => False

instance : DecidablePred IsText
  | .text _ => .isTrue trivial
  | .unsigned32 | .signed32 | .unsigned16 | .real64 => .isFalse id

end FieldKind

/-! ### Slots -/

/-- A field with its bytes. -/
structure Slot where
  field : Field
  bytes : Bytes

namespace Slot

def value? (slot : Slot) : Option FieldValue :=
  slot.field.kind.decode slot.bytes

def read (slot : Slot) : Attempt HeaderError FieldValue :=
  match slot.value? with
  | some value => .ok value
  | none => refuse (.invalidText slot.field.name)

/-- A number in any bytes, and a text in those that can be read. -/
def Accepted (slot : Slot) : Prop :=
  slot.field.kind.IsText → TextBlock.Readable slot.bytes

theorem accepted_of_number (slot : Slot) (h : ¬slot.field.kind.IsText) : slot.Accepted :=
  fun htext => absurd htext h

theorem accepted_iff {slot : Slot} : slot.Accepted ↔ ∃ value, slot.value? = some value := by
  obtain ⟨⟨name, kind⟩, b⟩ := slot
  cases kind with
  | text width =>
    simp only [Accepted, FieldKind.IsText, true_implies, TextBlock.readable_iff, value?,
      FieldKind.decode, Option.map_eq_some_iff]
    constructor
    · intro h
      obtain ⟨s, hs⟩ := h
      exact ⟨.text s, s, hs, rfl⟩
    · intro h
      obtain ⟨_, s, hs, _⟩ := h
      exact ⟨s, hs⟩
  | _ => exact iff_of_true False.elim ⟨_, rfl⟩

theorem read_eq_ok_iff {slot : Slot} {value : FieldValue} :
    slot.read = .ok value ↔ slot.value? = some value := by
  unfold read
  split
  · next h => simp [h]
  · next h => simp [h, refuse]

theorem read_of_not_accepted {slot : Slot} (h : ¬slot.Accepted) :
    slot.read = refuse (.invalidText slot.field.name) := by
  unfold read
  split
  · next hvalue => exact absurd (accepted_iff.2 ⟨_, hvalue⟩) h
  · rfl

theorem exists_mapM_read_iff {slots : List Slot} :
    (∃ values, slots.mapM read = .ok values) ↔ ∀ slot ∈ slots, slot.Accepted := by
  simp only [mapM_eq_ok_iff, read_eq_ok_iff, accepted_iff]
  induction slots with
  | nil => simp
  | cons slot slots ih =>
    simp only [List.forall₂_cons_left_iff, List.forall_mem_cons, ← ih]
    constructor
    · intro h
      obtain ⟨_, value, values, hvalue, hvalues, _⟩ := h
      exact ⟨⟨value, hvalue⟩, values, hvalues⟩
    · intro h
      obtain ⟨⟨value, hvalue⟩, values, hvalues⟩ := h
      exact ⟨_, value, values, hvalue, hvalues, rfl⟩

/-- The first slot that cannot be read decides. -/
theorem mapM_read_of_not_accepted {front : List Slot} {slot : Slot} (back : List Slot)
    (hfront : ∀ other ∈ front, other.Accepted) (h : ¬slot.Accepted) :
    (front ++ slot :: back).mapM read = refuse (.invalidText slot.field.name) := by
  obtain ⟨values, hvalues⟩ := exists_mapM_read_iff.2 hfront
  rw [List.mapM_append, hvalues, ok_bind, List.mapM_cons, read_of_not_accepted h]
  rfl

end Slot

namespace Header

def slots : List Field → Bytes → List Slot
  | [], _ => []
  | field :: fields, b =>
    ⟨field, b.take field.kind.width⟩ :: slots fields (b.drop field.kind.width)

theorem layoutSize_cons (field : Field) (fields : List Field) :
    layoutSize (field :: fields) = field.kind.width + layoutSize fields := rfl

theorem slots_append (fields more : List Field) (b : Bytes) :
    slots (fields ++ more) b = slots fields b ++ slots more (b.drop (layoutSize fields)) := by
  induction fields generalizing b with
  | nil => rfl
  | cons field fields ih =>
    rw [List.cons_append, slots, slots, ih, List.drop_drop, layoutSize_cons, List.cons_append]

theorem field_of_mem_slots {fields : List Field} {b : Bytes} {slot : Slot}
    (h : slot ∈ slots fields b) : slot.field ∈ fields := by
  induction fields generalizing b with
  | nil => contradiction
  | cons field fields ih =>
    rcases List.mem_cons.1 h with rfl | h
    · exact List.mem_cons_self ..
    · exact List.mem_cons_of_mem _ (ih h)

theorem getElem?_slots {fields : List Field} {k : Nat} {field : Field}
    (h : fields[k]? = some field) (b : Bytes) :
    (slots fields b)[k]? =
      some ⟨field, (b.drop (layoutSize (fields.take k))).take field.kind.width⟩ := by
  induction fields generalizing b k with
  | nil => simp at h
  | cons first fields ih =>
    cases k with
    | zero =>
      obtain rfl : first = field := by simpa using h
      rfl
    | succ k =>
      rw [List.getElem?_cons_succ] at h
      rw [slots, List.getElem?_cons_succ, ih h, List.drop_drop, List.take_succ_cons,
        layoutSize_cons]

/-- Slots hold no byte behind the fields. -/
theorem slots_take (fields : List Field) (b : Bytes) :
    slots fields (b.take (layoutSize fields)) = slots fields b := by
  induction fields generalizing b with
  | nil => rfl
  | cons field fields ih =>
    rw [layoutSize_cons, slots, slots, List.take_take, Nat.min_eq_left (Nat.le_add_right ..),
      List.drop_take, Nat.add_sub_cancel_left, ih]

theorem length_of_mem_slots {fields : List Field} {b : Bytes} (h : layoutSize fields ≤ b.length)
    {slot : Slot} (hslot : slot ∈ slots fields b) :
    slot.bytes.length = slot.field.kind.width := by
  induction fields generalizing b with
  | nil => contradiction
  | cons field fields ih =>
    rw [layoutSize_cons] at h
    rcases List.mem_cons.1 hslot with rfl | hslot
    · exact List.length_take_of_le (Nat.le_trans (Nat.le_add_right ..) h)
    · refine ih ?_ hslot
      rw [List.length_drop]
      omega

theorem decodeFields_eq_mapM {fields : List Field} {b : Bytes} (h : layoutSize fields ≤ b.length) :
    decodeFields fields b = (slots fields b).mapM Slot.read := by
  induction fields generalizing b with
  | nil => rfl
  | cons field fields ih =>
    rw [layoutSize_cons] at h
    have hwidth : field.kind.width ≤ b.length := by omega
    have hrest : layoutSize fields ≤ (b.drop field.kind.width).length := by
      rw [List.length_drop]
      omega
    rw [decodeFields, Bytes.next, if_pos hwidth, liftM_ok, ok_bind, slots, List.mapM_cons,
      ← ih hrest, Slot.read, Slot.value?]
    cases hvalue : field.kind.decode (b.take field.kind.width) with
    | none =>
      simp only [hvalue]
      rfl
    | some value =>
      simp only [hvalue]
      rfl

/-! ### The two texts of a header -/

def nameField : Field := ⟨"name", .text 24⟩

def descriptionField : Field := ⟨"description", .text 512⟩

def nameBlock (b : Bytes) : Bytes :=
  (b.drop 4).take 24

def descriptionBlock (b : Bytes) : Bytes :=
  (b.drop 36).take 512

theorem slots_layout (b : Bytes) :
    slots layout b = slots (layout.take 1) b ++ ⟨nameField, nameBlock b⟩ ::
      (slots ((layout.drop 2).take 2) (b.drop 28) ++
        ⟨descriptionField, descriptionBlock b⟩ :: slots (layout.drop 5) (b.drop 548)) := by
  have hlayout : layout = layout.take 1 ++ ([nameField] ++ ((layout.drop 2).take 2 ++
    ([descriptionField] ++ layout.drop 5))) := rfl
  conv => lhs; rw [hlayout]
  simp only [slots_append, List.drop_drop]
  rfl

theorem forall_slots_of_numbers {P : Slot → Prop}
    (hnumber : ∀ slot : Slot, ¬slot.field.kind.IsText → P slot) {fields : List Field}
    (hfields : ∀ field ∈ fields, ¬field.kind.IsText) (b : Bytes) :
    ∀ slot ∈ slots fields b, P slot :=
  fun slot hslot => hnumber slot (hfields _ (field_of_mem_slots hslot))

/-- What holds for all numbers holds for a header if it holds for its two texts. -/
theorem forall_slots_layout_iff {P : Slot → Prop} (b : Bytes)
    (hnumber : ∀ slot : Slot, ¬slot.field.kind.IsText → P slot) :
    (∀ slot ∈ slots layout b, P slot) ↔
      P ⟨nameField, nameBlock b⟩ ∧ P ⟨descriptionField, descriptionBlock b⟩ := by
  rw [slots_layout]
  simp only [List.forall_mem_append, List.forall_mem_cons]
  constructor
  · rintro ⟨-, hname, -, hdescription, -⟩
    exact ⟨hname, hdescription⟩
  · rintro ⟨hname, hdescription⟩
    exact ⟨forall_slots_of_numbers hnumber (by decide) _, hname,
      forall_slots_of_numbers hnumber (by decide) _, hdescription,
      forall_slots_of_numbers hnumber (by decide) _⟩

/-! ### Reading a header -/

/-- Why no header is read: the first condition that does not hold. -/
inductive Refusal (b : Bytes) : HeaderError → Prop where
  | tooShort (hshort : b.length < size) : Refusal b (.tooShort b.length)
  | name (hlong : size ≤ b.length) (hname : ¬TextBlock.Readable (nameBlock b)) :
    Refusal b (.invalidText "name")
  | description (hlong : size ≤ b.length) (hname : TextBlock.Readable (nameBlock b))
    (hdescription : ¬TextBlock.Readable (descriptionBlock b)) :
    Refusal b (.invalidText "description")

variable {b : Bytes}

theorem decode_of_le (h : size ≤ b.length) :
    decode b = ((slots layout b).mapM Slot.read >>= fun values => ofExcept (ofValues values)) := by
  rw [decode, if_neg (Nat.not_lt.2 h), decodeFields_eq_mapM h]

theorem decode_congr {c : Bytes} (hb : size ≤ b.length) (hc : size ≤ c.length)
    (h : c.take size = b.take size) : decode c = decode b := by
  have hslots : slots layout c = slots layout b := by
    rw [← slots_take layout c, ← slots_take layout b]
    exact congrArg (slots layout) h
  rw [decode_of_le hb, decode_of_le hc, hslots]

theorem decode_take (b : Bytes) : decode (b.take size) = decode b := by
  by_cases h : size ≤ b.length
  · refine decode_congr h ?_ ?_
    · rw [List.length_take]
      omega
    · rw [List.take_take, Nat.min_self]
  · rw [List.take_of_length_le (Nat.le_of_not_le h)]

theorem exists_decode_iff :
    (∃ h, decode b = .ok h) ↔ size ≤ b.length ∧
      TextBlock.Readable (nameBlock b) ∧ TextBlock.Readable (descriptionBlock b) := by
  have htexts : (∀ slot ∈ slots layout b, slot.Accepted) ↔
      TextBlock.Readable (nameBlock b) ∧ TextBlock.Readable (descriptionBlock b) := by
    rw [forall_slots_layout_iff b Slot.accepted_of_number]
    simp [Slot.Accepted, nameField, descriptionField, FieldKind.IsText]
  rw [← htexts, ← Slot.exists_mapM_read_iff]
  simp only [decode_eq_ok_iff, exists_and_left]
  refine and_congr_right fun hlong => ?_
  rw [← decodeFields_eq_mapM hlong]
  constructor
  · intro h
    obtain ⟨header, hvalues⟩ := h
    exact ⟨_, hvalues⟩
  · intro h
    obtain ⟨values, hvalues⟩ := h
    obtain ⟨header, rfl⟩ := exists_values_of_holding (holding_of_decodeFields hvalues)
    exact ⟨header, hvalues⟩

theorem decode_of_refusal {cause : HeaderError} (h : Refusal b cause) :
    decode b = refuse cause := by
  cases h with
  | tooShort hshort => rw [decode, if_pos hshort]; rfl
  | name hlong hname =>
    have hrefused : ¬(⟨nameField, nameBlock b⟩ : Slot).Accepted := fun h => hname (h trivial)
    have hfront := forall_slots_of_numbers Slot.accepted_of_number
      (show ∀ field ∈ layout.take 1, ¬field.kind.IsText by decide) b
    rw [decode_of_le hlong, slots_layout, Slot.mapM_read_of_not_accepted _ hfront hrefused]
    rfl
  | description hlong hname hdescription =>
    have hrefused : ¬(⟨descriptionField, descriptionBlock b⟩ : Slot).Accepted :=
      fun h => hdescription (h trivial)
    rw [decode_of_le hlong, slots_layout, ← List.cons_append, ← List.append_assoc,
      Slot.mapM_read_of_not_accepted _ ?_ hrefused]
    · rfl
    · simp only [List.forall_mem_append, List.forall_mem_cons]
      exact ⟨forall_slots_of_numbers Slot.accepted_of_number (by decide) _, fun _ => hname,
        forall_slots_of_numbers Slot.accepted_of_number (by decide) _⟩

theorem ok_or_refusal (b : Bytes) : (∃ h, decode b = .ok h) ∨ ∃ cause, Refusal b cause := by
  rw [exists_decode_iff]
  by_cases hlong : size ≤ b.length
  swap
  · exact .inr ⟨_, .tooShort (Nat.lt_of_not_le hlong)⟩
  by_cases hname : TextBlock.Readable (nameBlock b)
  swap
  · exact .inr ⟨_, .name hlong hname⟩
  by_cases hdescription : TextBlock.Readable (descriptionBlock b)
  swap
  · exact .inr ⟨_, .description hlong hname hdescription⟩
  exact .inl ⟨hlong, hname, hdescription⟩

theorem faultless_decode (b : Bytes) : (decode b).Faultless := by
  obtain ⟨h, hok⟩ | ⟨cause, hcause⟩ := ok_or_refusal b
  · rw [hok]
    exact faultless_ok h
  · rw [decode_of_refusal hcause]
    exact faultless_refuse cause

theorem decode_eq_refuse_iff {cause : HeaderError} :
    decode b = refuse cause ↔ Refusal b cause := by
  constructor
  · intro h
    rcases ok_or_refusal b with ⟨header, hok⟩ | ⟨first, hfirst⟩
    · rw [hok] at h
      contradiction
    · rw [decode_of_refusal hfirst] at h
      cases h
      exact hfirst
  · exact decode_of_refusal

theorem value?_of_decode {h : Header} (hdecode : decode b = .ok h) :
    List.Forall₂ (fun slot value => slot.value? = some value) (slots layout b) h.values := by
  obtain ⟨hlong, hfields⟩ := decode_eq_ok_iff.1 hdecode
  rw [decodeFields_eq_mapM hlong, mapM_eq_ok_iff] at hfields
  exact hfields.imp fun _ _ => Slot.read_eq_ok_iff.1

theorem stores_of_decode {h : Header} {k : Nat} {field : Field} (hdecode : decode b = .ok h)
    (hk : layout[k]? = some field) :
    ∃ value, h.values[k]? = some value ∧
      field.kind.Stores ((b.drop (layoutSize (layout.take k))).take field.kind.width) value := by
  obtain ⟨hlong, -⟩ := decode_eq_ok_iff.1 hdecode
  have hvalues := value?_of_decode hdecode
  have hslot := getElem?_slots hk b
  obtain ⟨hslots, hslot⟩ := List.getElem?_eq_some_iff.1 hslot
  have hlength : k < h.values.length := hvalues.length_eq ▸ hslots
  have hvalue := hvalues.get hslots hlength
  rw [List.get_eq_getElem, hslot] at hvalue
  refine ⟨_, List.getElem?_eq_getElem hlength, ?_⟩
  exact FieldKind.stores_of_decode (length_of_mem_slots hlong (List.mem_of_getElem hslot)) hvalue

theorem read_eq_decode {files : FileView} {path : Path} {content : FileContent}
    (h : files.find path = .ok (.file content)) :
    read files path = (decode content.toBytes).widen fun cause => .invalid (.header cause) := by
  rw [read_eq h, decode_take]

/-- A header is read exactly from bytes that are long enough and whose two texts can be read.
Each of its fields, in the order of the layout, holds what is stored behind the fields before
it, and nothing behind the layout matters. Otherwise the reason is the first condition that
does not hold, which is one of these. A file is read as its content is. -/
theorem decode_reads_fields_in_their_places (b : Bytes) :
    ((∃ h, decode b = .ok h) ↔ size ≤ b.length ∧
      TextBlock.Readable (nameBlock b) ∧ TextBlock.Readable (descriptionBlock b)) ∧
    (∀ h, decode b = .ok h →
      h.fields.map (·.1) = layout.map (·.name) ∧
      (∀ (k : Nat) (field : Field), layout[k]? = some field → ∃ value,
        h.fields[k]? = some (field.name, value) ∧
        field.kind.Stores ((b.drop (layoutSize (layout.take k))).take field.kind.width) value) ∧
      ∀ c, size ≤ c.length → c.take size = b.take size → decode c = .ok h) ∧
    (decode b).Faultless ∧
    (∀ cause, decode b = refuse cause ↔ Refusal b cause) ∧
    ∀ (files : FileView) (path : Path) (content : FileContent),
      files.find path = .ok (.file content) → content.toBytes = b →
      read files path = (decode b).widen fun cause => .invalid (.header cause) := by
  refine ⟨exists_decode_iff, ?_, faultless_decode b, fun cause => decode_eq_refuse_iff, ?_⟩
  · intro h hdecode
    obtain ⟨hlong, -⟩ := decode_eq_ok_iff.1 hdecode
    refine ⟨rfl, ?_, ?_⟩
    · intro k field hk
      obtain ⟨value, hvalue, hstores⟩ := stores_of_decode hdecode hk
      refine ⟨value, ?_, hstores⟩
      rw [fields, List.getElem?_zip_eq_some, List.getElem?_map, hk]
      exact ⟨rfl, hvalue⟩
    · intro c hc htake
      rw [decode_congr hlong hc htake, hdecode]
  · rintro files path content hfind rfl
    exact read_eq_decode hfind

/-- The name of this header starts with half a pair. -/
def brokenName : Bytes :=
  List.replicate 4 0 ++ ([0x00, 0xD8, 0x78, 0x00] ++ List.replicate 624 0)

end Header

theorem SmallRecording.header_decode : Header.decode content.toBytes = .ok header := by
  have hfile := header_read
  rw [Header.read_eq_decode find_content] at hfile
  exact widen_eq_ok.1 hfile

theorem small_header_is_read_field_by_field :
    Header.decode SmallRecording.content.toBytes = .ok SmallRecording.header ∧
      (∃ value, SmallRecording.header.fields[13]? = some ("true_image_size", value) ∧
        FieldKind.unsigned32.Stores ((SmallRecording.content.toBytes.drop 580).take 4) value) ∧
      Header.read SmallRecording.files SmallRecording.path = .ok SmallRecording.header ∧
      Header.decode Header.brokenName = refuse (.invalidText "name") := by
  obtain ⟨-, hfields, -, -, hread⟩ :=
    Header.decode_reads_fields_in_their_places SmallRecording.content.toBytes
  obtain ⟨-, -, -, hrefusal, -⟩ := Header.decode_reads_fields_in_their_places Header.brokenName
  obtain ⟨-, hplaces, -⟩ := hfields _ SmallRecording.header_decode
  refine ⟨SmallRecording.header_decode, ?_, ?_, (hrefusal _).2 (.name ?_ ?_)⟩
  · have hplace := hplaces 13 ⟨"true_image_size", .unsigned32⟩ rfl
    have hoffset : Header.layoutSize (Header.layout.take 13) = 580 := by decide
    rwa [hoffset] at hplace
  · rw [hread _ _ _ SmallRecording.find_content rfl, SmallRecording.header_decode]
    rfl
  · decide +kernel
  · decide

end DetectorScan
