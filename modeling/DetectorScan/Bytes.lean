import DetectorScan.Word

/-!
# Byte strings and little-endian numbers

`Bytes.ofNat` writes a number as base-256 digits, least significant first, and
`Bytes.value` reads them. They are inverse to each other on numbers that fit and on
byte strings of the given width.
-/

namespace DetectorScan

abbrev Bytes := List UInt8

namespace Bytes

/-- The `width` low base-256 digits of `n`, least significant first. -/
def ofNat : (width : Nat) → (n : Nat) → Bytes
  | 0, _ => []
  | width + 1, n => UInt8.ofNat n :: ofNat width (n / 256)

/-- The number whose base-256 digits these are, least significant first. -/
def value : Bytes → Nat
  | [] => 0
  | b :: rest => b.toNat + 256 * value rest

theorem length_ofNat (width n : Nat) : (ofNat width n).length = width := by
  induction width generalizing n with
  | zero => rfl
  | succ width ih => simp [ofNat, ih]

theorem value_lt (b : Bytes) : value b < Nat.pow 256 b.length := by
  induction b with
  | nil => simp [value]
  | cons x rest ih =>
    have hx : x.toNat < 256 := x.toNat_lt
    simp only [value, List.length_cons, Nat.pow_eq, Nat.pow_succ] at ih ⊢
    omega

theorem value_ofNat (width n : Nat) : value (ofNat width n) = n % Nat.pow 256 width := by
  induction width generalizing n with
  | zero => simp [ofNat, value, Nat.mod_one]
  | succ width ih =>
    simp only [ofNat, value, ih, Nat.pow_eq, Nat.pow_succ, Nat.mul_comm _ 256, Nat.mod_mul]
    simp

theorem value_ofNat_of_lt {width n : Nat} (h : n < Nat.pow 256 width) :
    value (ofNat width n) = n := by
  rw [value_ofNat, Nat.mod_eq_of_lt h]

theorem ofNat_value (b : Bytes) : ofNat b.length (value b) = b := by
  induction b with
  | nil => rfl
  | cons x rest ih =>
    have hx : x.toNat < 256 := x.toNat_lt
    have hdiv : (x.toNat + 256 * value rest) / 256 = value rest := by omega
    have hmod : UInt8.ofNat (x.toNat + 256 * value rest) = x := by
      apply UInt8.toNat_inj.1
      rw [UInt8.toNat_ofNat']
      omega
    simp only [List.length_cons, ofNat, value, hdiv, hmod, ih]

/-! ### Parts of a byte string -/

def range (b : Bytes) (start stop : Nat) : Checked Bytes :=
  if start ≤ stop ∧ stop ≤ b.length then .ok ((b.drop start).take (stop - start))
  else .error .outOfRange

def next (width : Nat) (b : Bytes) : Checked (Bytes × Bytes) :=
  if width ≤ b.length then .ok (b.take width, b.drop width) else .error .outOfRange

/-- The number stored in `width` bytes at `offset`. -/
def natAt (b : Bytes) (offset width : Nat) : Checked Nat := do
  return value (← b.range offset (offset + width))

/-- The first `count` parts of `width` bytes each. -/
def parts (width : Nat) : (count : Nat) → Bytes → List Bytes
  | 0, _ => []
  | count + 1, b => b.take width :: parts width count (b.drop width)

/-- A byte string in parts of `width` bytes each; an incomplete one at the end is dropped. -/
def chunks (width : Nat) (b : Bytes) : List Bytes :=
  parts width (b.length / width) b

/-- The numbers of `width` bytes each that a byte string holds. -/
def items (width : Nat) (b : Bytes) : List Nat :=
  (chunks width b).map value

theorem range_of_le {b : Bytes} {start stop : Nat} (h : start ≤ stop) (hstop : stop ≤ b.length) :
    b.range start stop = .ok ((b.drop start).take (stop - start)) :=
  if_pos ⟨h, hstop⟩

theorem natAt_of_le {b : Bytes} {offset width : Nat} (h : offset + width ≤ b.length) :
    b.natAt offset width = .ok (value ((b.drop offset).take width)) := by
  rw [natAt, range_of_le (Nat.le_add_right ..) h, Nat.add_sub_cancel_left]
  rfl

theorem length_parts (width count : Nat) (b : Bytes) : (parts width count b).length = count := by
  induction count generalizing b with
  | zero => rfl
  | succ count ih => simp [parts, ih]

theorem length_items (width : Nat) (b : Bytes) : (items width b).length = b.length / width := by
  rw [items, List.length_map, chunks, length_parts]

/-- Part `k` starts at offset `k * width`. -/
theorem getElem?_parts (width count : Nat) (b : Bytes) (k : Nat) (h : k < count) :
    (parts width count b)[k]? = some ((b.drop (k * width)).take width) := by
  induction count generalizing b k with
  | zero => omega
  | succ count ih =>
    cases k with
    | zero => simp [parts]
    | succ k =>
      have hk : (k + 1) * width = width + k * width := by rw [Nat.add_mul]; omega
      simp only [parts, List.getElem?_cons_succ]
      rw [ih _ _ (by omega), List.drop_drop, hk]

/-- Item `k` is read at offset `k * width`. -/
theorem getElem?_items {width : Nat} {b : Bytes} {k : Nat} (h : k < b.length / width) :
    (items width b)[k]? = some (value ((b.drop (k * width)).take width)) := by
  rw [items, List.getElem?_map, chunks, getElem?_parts _ _ _ _ h]
  rfl

theorem length_of_mem_parts {width count : Nat} {b part : Bytes} (h : part ∈ parts width count b)
    (hb : count * width ≤ b.length) : part.length = width := by
  induction count generalizing b with
  | zero => contradiction
  | succ count ih =>
    rw [Nat.add_mul, Nat.one_mul] at hb
    rcases List.mem_cons.1 h with rfl | h
    · rw [List.length_take]
      omega
    · exact ih h (by rw [List.length_drop]; omega)

theorem length_of_mem_chunks {width : Nat} {b part : Bytes} (h : part ∈ chunks width b) :
    part.length = width :=
  length_of_mem_parts h (Nat.div_mul_le_self ..)

theorem natAt_lt {b : Bytes} {offset width n : Nat} (h : b.natAt offset width = .ok n) :
    n < Nat.pow 256 width := by
  obtain ⟨part, hpart, h⟩ := bind_eq_ok.1 h
  cases h
  unfold range at hpart
  split at hpart
  · cases hpart
    have hlength : ((b.drop offset).take (offset + width - offset)).length = width := by
      rw [List.length_take, List.length_drop]
      omega
    have hvalue := value_lt ((b.drop offset).take (offset + width - offset))
    rwa [hlength] at hvalue
  · contradiction

/-- An item of a part of a byte string is the number at its place behind the start of the part. -/
theorem natAt_items {b : Bytes} {start size width k : Nat} (h : start + size ≤ b.length)
    (hwidth : 0 < width) (hk : (k + 1) * width ≤ size) :
    ∃ n, b.natAt (start + k * width) width = .ok n ∧
      (items width ((b.drop start).take size))[k]? = some n := by
  have hlength : ((b.drop start).take size).length = size := by
    rw [List.length_take, List.length_drop]
    omega
  have hitem : k < ((b.drop start).take size).length / width := by
    rwa [hlength, ← Nat.succ_le_iff, Nat.le_div_iff_mul_le hwidth]
  rw [Nat.add_mul, Nat.one_mul] at hk
  refine ⟨_, natAt_of_le (by omega), ?_⟩
  rw [getElem?_items hitem, List.drop_take, List.take_take, List.drop_drop,
    Nat.min_eq_left (by omega)]

/-- The first item of a byte string is read from its first `width` bytes. -/
theorem items_append {width : Nat} {b : Bytes} (rest : Bytes) (hb : b.length = width)
    (hwidth : 0 < width) : items width (b ++ rest) = value b :: items width rest := by
  have hcount : (b ++ rest).length / width = rest.length / width + 1 := by
    rw [List.length_append, hb, Nat.add_comm, Nat.add_div_right _ hwidth]
  rw [items, chunks, hcount, parts, List.take_left' hb, List.drop_left' hb]
  rfl

theorem items_one (b : Bytes) : items 1 b = b.map UInt8.toNat := by
  induction b with
  | nil => rfl
  | cons x rest ih =>
    have hfirst : items 1 ([x] ++ rest) = value [x] :: items 1 rest :=
      items_append rest rfl Nat.one_pos
    rw [List.singleton_append] at hfirst
    rw [hfirst, ih, List.map_cons, value, value, Nat.mul_zero, Nat.add_zero]

end Bytes

end DetectorScan
