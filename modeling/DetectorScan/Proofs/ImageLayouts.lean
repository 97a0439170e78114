import DetectorScan.Mrc
import DetectorScan.Proofs.Attempts
import Mathlib.Algebra.Group.Nat.Defs
import Mathlib.Logic.Basic

/-!
# What the header of an image announces

The words of a header say how many cells an image has, how each is stored and where they
start. Reading an image is no more than finding these words and then the cells behind them,
or refusing the image for the first word that does not fit. The one fault is that of an image
whose numbers there can be no room for.
-/

namespace DetectorScan

/-! ### Products of axes -/

theorem volume_cons (d : Nat) (dims : List Nat) : volume (d :: dims) = d * volume dims := rfl

theorem volume_pos {dims : List Nat} (h : ∀ d ∈ dims, 0 < d) : 0 < volume dims := by
  induction dims with
  | nil => exact Nat.one_pos
  | cons d dims ih =>
    exact Nat.mul_pos (h d (List.mem_cons_self ..))
      (ih fun e he => h e (List.mem_cons_of_mem _ he))

theorem Word.foldlM_mul {dims : List Nat} {n : Nat} (hpos : ∀ d ∈ dims, 0 < d)
    (hn : n < wordLimit) :
    dims.foldlM Word.mul n =
      if n * volume dims < wordLimit then .ok (n * volume dims) else .error .overflow := by
  induction dims generalizing n with
  | nil =>
    rw [List.foldlM_nil, volume, List.foldr_nil, Nat.mul_one, if_pos hn]
    rfl
  | cons d dims ih =>
    obtain ⟨_, hrest⟩ := List.forall_mem_cons.1 hpos
    rw [List.foldlM_cons, volume_cons, ← Nat.mul_assoc]
    by_cases hstep : n * d < wordLimit
    · rw [Word.mul_of_lt hstep]
      exact ih hrest hstep
    · -- As no axis is empty, a product that is too large stays so on the way to the last one.
      have hle : n * d ≤ n * d * volume dims := Nat.le_mul_of_pos_right _ (volume_pos hrest)
      rw [Word.mul, if_neg hstep, if_neg (by omega)]
      rfl

/-! ### Axes of length one -/

theorem volume_filter_ne_one (dims : List Nat) : volume (dims.filter (· ≠ 1)) = volume dims := by
  induction dims with
  | nil => rfl
  | cons d dims ih =>
    by_cases hd : d = 1
    · rw [List.filter_cons_of_neg (by simp [hd]), ih, volume_cons, hd, Nat.one_mul]
    · rw [List.filter_cons_of_pos (by simp [hd]), volume_cons, volume_cons, ih]

theorem filter_ne_one_eq_nil {dims : List Nat} (h : volume dims = 1) :
    dims.filter (· ≠ 1) = [] := by
  induction dims with
  | nil => rfl
  | cons d dims ih =>
    rw [volume_cons] at h
    have hd : d = 1 := Nat.eq_one_of_mul_eq_one_right h
    have hrest : volume dims = 1 := Nat.eq_one_of_mul_eq_one_left h
    rw [List.filter_cons_of_neg (by simp [hd]), ih hrest]

namespace Mrc

theorem addressable_of_pos {shape : List Nat} (hpos : ∀ d ∈ shape, 0 < d)
    (h : volume shape ≤ maxObjectSize) : Grid.Addressable shape := by
  have hall : shape.filter (· ≠ 0) = shape := by
    rw [List.filter_eq_self]
    exact fun d hd => decide_eq_true (Nat.ne_of_gt (hpos d hd))
  rwa [Grid.Addressable, hall]

theorem shaped_of_length {α : Type} {shape : List Nat} {cells : List α}
    (h : cells.length = volume shape) (haddressable : Grid.Addressable shape) :
    Grid.shaped shape cells = .ok ⟨shape, cells, h⟩ := by
  rw [Grid.shaped, if_neg (not_not.2 haddressable), if_neg (by omega), dif_pos h]

/-! ### The end of the cells -/

theorem toOption_add (a b : Nat) :
    (Word.add a b).toOption = if a + b < wordLimit then some (a + b) else none := by
  unfold Word.add
  split
  · rfl
  · rfl

theorem dataEnd?_eq {cellSize extended : Nat} {dims : List Nat} (hpos : ∀ d ∈ dims, 0 < d)
    (hcell : cellSize < wordLimit) :
    dataEnd? cellSize dims extended =
      if cellSize * volume dims + headerSize + extended < wordLimit then
        some (cellSize * volume dims + headerSize + extended)
      else none := by
  rw [dataEnd?, ← toOption_foldlM, Word.foldlM_mul hpos hcell]
  by_cases hcells : cellSize * volume dims < wordLimit
  · have hproduct : (Except.ok (cellSize * volume dims) : Checked Nat).toOption =
        some (cellSize * volume dims) := rfl
    rw [if_pos hcells, hproduct, Option.bind_eq_bind, Option.bind_some, toOption_add]
    by_cases hheader : cellSize * volume dims + headerSize < wordLimit
    · rw [if_pos hheader, Option.bind_some, toOption_add]
    · rw [if_neg hheader, if_neg (by omega), Option.bind_none]
  · have hoverflow : (Except.error Fault.overflow : Checked Nat).toOption = none := rfl
    rw [if_neg hcells, if_neg (by omega), hoverflow, Option.bind_eq_bind, Option.bind_none]

/-! ### Words -/

theorem wordAt_eq_ok {b : Bytes} {offset : Nat} (h : offset + 4 ≤ b.length) :
    wordAt b offset = .ok (Mode.signed 4 (Bytes.value ((b.drop offset).take 4))) := by
  rw [wordAt, Bytes.natAt_of_le h]
  rfl

theorem wordAt_of_le {b : Bytes} {offset : Nat} (h : offset + 4 ≤ b.length) :
    ∃ w, wordAt b offset = .ok w :=
  ⟨_, wordAt_eq_ok h⟩

theorem signed_word_lt {n : Nat} (h : n < Nat.pow 256 4) : (Mode.signed 4 n).toNat < 2 ^ 31 := by
  have hsize : Nat.pow 256 4 = 2 ^ 32 := by decide
  unfold Mode.signed
  split <;> omega

theorem toNat_lt_of_wordAt {b : Bytes} {offset : Nat} {w : Int}
    (hw : wordAt b offset = .ok w) : w.toNat < 2 ^ 31 := by
  obtain ⟨n, hn, hw⟩ := bind_eq_ok.1 hw
  cases hw
  exact signed_word_lt (Bytes.natAt_lt hn)

namespace Mode

/-- The number by which a header names a mode. -/
def code : Mode → Int
  | .int8 => 0
  | .int16 => 1
  | .float32 => 2
  | .uint16 => 6

theorem ofCode?_eq_some {n : Int} {mode : Mode} : ofCode? n = some mode ↔ n = mode.code := by
  constructor
  · intro h
    unfold ofCode? at h
    split at h
    · cases h
      rfl
    · cases h
      rfl
    · cases h
      rfl
    · cases h
      rfl
    · contradiction
  · intro h
    subst h
    cases mode <;> rfl

theorem size_pos (mode : Mode) : 0 < mode.size := by
  cases mode <;> decide

end Mode

/-! ### Layouts of images -/

/-- The axes of an image, the way in which its cells are stored, and the length of the second
header in front of them. -/
structure ImageLayout where
  nz : Nat
  ny : Nat
  nx : Nat
  mode : Mode
  extended : Nat

namespace ImageLayout

def dims (i : ImageLayout) : List Nat :=
  [i.nz, i.ny, i.nx]

def start (i : ImageLayout) : Nat :=
  headerSize + i.extended

def stop (i : ImageLayout) : Nat :=
  i.start + i.nz * i.ny * i.nx * i.mode.size

/-- The cells that a byte string holds for the image. -/
def cells (i : ImageLayout) (b : Bytes) : List Binary32 :=
  (Bytes.items i.mode.size ((b.drop i.start).take (i.stop - i.start))).map i.mode.cell

/-- There can be room for the numbers of the cells. Cells of four bytes are no larger in memory
than in the file; of the others there must be fewer than `2 ^ 61`. -/
def Roomy (i : ImageLayout) : Prop :=
  i.mode = .float32 ∨ i.nz * i.ny * i.nx < 2 ^ 61

instance (i : ImageLayout) : Decidable i.Roomy :=
  inferInstanceAs (Decidable (_ ∨ _))

variable {i : ImageLayout} {b : Bytes}

theorem volume_dims (i : ImageLayout) : volume i.dims = i.nz * i.ny * i.nx := by
  simp only [dims, volume, List.foldr_cons, List.foldr_nil]
  rw [Nat.mul_one, Nat.mul_assoc]

theorem stop_eq (i : ImageLayout) :
    i.stop = i.mode.size * volume i.dims + headerSize + i.extended := by
  rw [stop, start, volume_dims, Nat.mul_comm]
  omega

theorem start_le_stop (i : ImageLayout) : i.start ≤ i.stop :=
  Nat.le_add_right ..

theorem length_stored (h : i.stop ≤ b.length) :
    ((b.drop i.start).take (i.stop - i.start)).length = i.nz * i.ny * i.nx * i.mode.size := by
  rw [List.length_take, List.length_drop]
  unfold stop at h ⊢
  omega

theorem roomy_iff (i : ImageLayout) : i.Roomy ↔
    (i.mode ≠ .float32 → Growth.atOnce.Holds Binary32.size (i.nz * i.ny * i.nx)) := by
  have hholds : Growth.atOnce.Holds Binary32.size (i.nz * i.ny * i.nx) ↔
      i.nz * i.ny * i.nx < 2 ^ 61 := by
    rw [Growth.holds_atOnce, Binary32.size, maxObjectSize]
    omega
  rw [hholds]
  exact or_iff_not_imp_left

theorem length_cells (h : i.stop ≤ b.length) :
    (i.cells b).length = volume (i.dims.filter (· ≠ 1)) := by
  rw [volume_filter_ne_one, volume_dims, cells, List.length_map, Bytes.length_items,
    length_stored h, Nat.mul_div_cancel _ i.mode.size_pos]

end ImageLayout

/-- A header that is long enough and little-endian, with its words for the axes. -/
structure AxisWords (b : Bytes) (nz ny nx : Int) : Prop where
  long : headerSize ≤ b.length
  littleEndian : b.natAt 212 1 ≠ .ok 0x11
  nz_word : wordAt b 8 = .ok nz
  ny_word : wordAt b 4 = .ok ny
  nx_word : wordAt b 0 = .ok nx

/-- The words of a header are those of a layout. -/
structure Announced (b : Bytes) (i : ImageLayout) : Prop extends AxisWords b i.nz i.ny i.nx where
  pos : ∀ d ∈ i.dims, 0 < d
  mode_word : wordAt b 12 = .ok i.mode.code
  extended_word : ∃ w : Int, wordAt b 92 = .ok w ∧ i.extended = w.toNat

/-- Why a byte string is refused: where a constructor speaks of one condition, the ones
before it hold. -/
inductive Refusal (b : Bytes) : MrcError → Prop where
  | tooShort (hshort : b.length < headerSize) : Refusal b (.tooShort b.length)
  | bigEndian (hlong : headerSize ≤ b.length) (hbig : b.natAt 212 1 = .ok 0x11) :
    Refusal b .bigEndian
  | dimensions {nz ny nx : Int} (hwords : AxisWords b nz ny nx)
    (hempty : nz ≤ 0 ∨ ny ≤ 0 ∨ nx ≤ 0) : Refusal b (.dimensions [nz, ny, nx])
  | unknownMode {nz ny nx code : Int} (hwords : AxisWords b nz ny nx)
    (hpos : 0 < nz ∧ 0 < ny ∧ 0 < nx) (hcode : wordAt b 12 = .ok code)
    (hunknown : ∀ mode : Mode, code ≠ mode.code) : Refusal b (.unknownMode code)
  | tooLarge {i : ImageLayout} (hannounced : Announced b i) (hlarge : wordLimit ≤ i.stop) :
    Refusal b (.tooLarge i.dims)
  | dataTooShort {i : ImageLayout} (hannounced : Announced b i) (hstop : i.stop < wordLimit)
    (hshort : b.length < i.stop) : Refusal b (.dataTooShort i.stop b.length)

namespace AxisWords

variable {b : Bytes} {nz ny nx : Int}

theorem mark (h : AxisWords b nz ny nx) : ∃ n, b.natAt 212 1 = .ok n ∧ n ≠ 0x11 := by
  have hlong : 1024 ≤ b.length := h.long
  refine ⟨_, Bytes.natAt_of_le (by omega), ?_⟩
  intro hbig
  apply h.littleEndian
  rw [Bytes.natAt_of_le (by omega), hbig]

theorem extended (h : AxisWords b nz ny nx) : ∃ w, wordAt b 92 = .ok w ∧ w.toNat < 2 ^ 31 := by
  have hlong : 1024 ≤ b.length := h.long
  obtain ⟨w, hw⟩ : ∃ w, wordAt b 92 = .ok w := wordAt_of_le (by omega)
  exact ⟨w, hw, toNat_lt_of_wordAt hw⟩

theorem decode_of_empty (h : AxisWords b nz ny nx) (hempty : nz ≤ 0 ∨ ny ≤ 0 ∨ nx ≤ 0) :
    decode b = Attempt.refuse (.dimensions [nz, ny, nx]) := by
  obtain ⟨n, hmark, hlittle⟩ := h.mark
  have hany : [nz, ny, nx].any (· ≤ 0) = true := by simpa using hempty
  rw [decode, if_neg (Nat.not_lt.2 h.long), hmark, h.nz_word, h.ny_word, h.nx_word]
  simp only [Attempt.liftM_ok, ok_bind]
  rw [if_neg hlittle, hany, if_pos rfl]
  rfl

theorem decode_of_unknown {code : Int} (h : AxisWords b nz ny nx)
    (hpos : 0 < nz ∧ 0 < ny ∧ 0 < nx) (hcode : wordAt b 12 = .ok code)
    (hunknown : ∀ mode : Mode, code ≠ mode.code) :
    decode b = Attempt.refuse (.unknownMode code) := by
  obtain ⟨n, hmark, hlittle⟩ := h.mark
  obtain ⟨w, hw, -⟩ := h.extended
  have hany : [nz, ny, nx].any (· ≤ 0) = false := by simpa using hpos
  have hmode : Mode.ofCode? code = none := by
    rw [Option.eq_none_iff_forall_ne_some]
    intro mode hmode
    exact hunknown mode (Mode.ofCode?_eq_some.1 hmode)
  rw [decode, if_neg (Nat.not_lt.2 h.long), hmark, h.nz_word, h.ny_word, h.nx_word, hcode, hw]
  simp only [Attempt.liftM_ok, ok_bind]
  rw [if_neg hlittle, hany, if_neg Bool.false_ne_true]
  simp only [hmode]

end AxisWords

/-- What is read where a header announces an image. -/
theorem Announced.decode_eq {b : Bytes} {i : ImageLayout} (h : Announced b i) :
    decode b =
      if wordLimit ≤ i.stop then Attempt.refuse (.tooLarge i.dims)
      else if b.length < i.stop then Attempt.refuse (.dataTooShort i.stop b.length)
      else if ¬ i.Roomy then .error (.fault .overflow)
      else Attempt.ofExcept
        ((Grid.shaped (i.dims.filter (· ≠ 1)) (i.cells b)).mapError .shape) := by
  obtain ⟨n, hmark, hlittle⟩ := h.mark
  obtain ⟨w, hw, hextended⟩ := h.extended_word
  have hpositive : [(i.nz : Int), i.ny, i.nx].any (· ≤ 0) = false := by
    simpa [Nat.pos_iff_ne_zero, ImageLayout.dims] using h.pos
  have hdims : [(i.nz : Int), i.ny, i.nx].map Int.toNat = i.dims := by simp [ImageLayout.dims]
  have hcode : Mode.ofCode? i.mode.code = some i.mode := Mode.ofCode?_eq_some.2 rfl
  have hcell : i.mode.size < wordLimit := by
    unfold wordLimit
    cases i.mode <;> decide
  have hstart : Word.add headerSize w.toNat = .ok i.start := by
    obtain ⟨v, hv, hsmall⟩ := h.extended
    obtain rfl : v = w := Except.ok.inj (hv.symm.trans hw)
    rw [Word.add_of_lt (by unfold headerSize wordLimit; omega), ← hextended]
    rfl
  rw [decode, if_neg (Nat.not_lt.2 h.long), hmark, h.nz_word, h.ny_word, h.nx_word,
    h.mode_word, hw]
  simp only [Attempt.liftM_ok, ok_bind]
  rw [if_neg hlittle, hpositive, hdims, if_neg Bool.false_ne_true]
  simp only [hcode, hstart]
  rw [← hextended, dataEnd?_eq h.pos hcell, ← i.stop_eq]
  by_cases hlarge : wordLimit ≤ i.stop
  · rw [if_pos hlarge, if_neg (Nat.not_lt.2 hlarge)]
  rw [if_neg hlarge, if_pos (Nat.lt_of_not_le hlarge)]
  simp only [Attempt.liftM_ok, ok_bind]
  by_cases hshort : b.length < i.stop
  · rw [if_pos hshort, if_pos hshort]
    rfl
  rw [if_neg hshort, if_neg hshort, Bytes.range_of_le i.start_le_stop (Nat.le_of_not_lt hshort)]
  simp only [Attempt.liftM_ok, ok_bind]
  rw [ImageLayout.length_stored (Nat.le_of_not_lt hshort), Nat.mul_div_cancel _ i.mode.size_pos]
  by_cases hroom : i.Roomy
  · rw [if_neg (not_not.2 hroom)]
    by_cases hmode : i.mode = .float32
    · rw [if_neg (not_not.2 hmode)]
      rfl
    · rw [if_pos hmode, Growth.reserve_of_holds (i.roomy_iff.1 hroom hmode)]
      rfl
  · obtain ⟨hmode, hholds⟩ := Classical.not_imp.1 (mt i.roomy_iff.2 hroom)
    rw [if_pos hroom, if_pos hmode, Growth.reserve_of_not_holds hholds]
    rfl

theorem Announced.decode_eq_ok {b : Bytes} {i : ImageLayout} (h : Announced b i)
    (hstop : i.stop ≤ b.length) (hword : i.stop < wordLimit) (hroom : i.Roomy)
    (hvolume : volume i.dims ≤ maxObjectSize) :
    decode b = .ok ⟨i.dims.filter (· ≠ 1), i.cells b, i.length_cells hstop⟩ := by
  have haddressable : Grid.Addressable (i.dims.filter (· ≠ 1)) := by
    apply addressable_of_pos
    · intro d hd
      exact h.pos d (List.mem_filter.1 hd).1
    · rwa [volume_filter_ne_one]
  rw [h.decode_eq, if_neg (Nat.not_le.2 hword), if_neg (Nat.not_lt.2 hstop),
    if_neg (not_not.2 hroom), shaped_of_length (i.length_cells hstop) haddressable]
  rfl

theorem decode_of_refusal {b : Bytes} {cause : MrcError} (h : Refusal b cause) :
    decode b = Attempt.refuse cause := by
  cases h with
  | tooShort hshort =>
    rw [decode, if_pos hshort]
    rfl
  | bigEndian hlong hbig =>
    rw [decode, if_neg (Nat.not_lt.2 hlong), hbig]
    rfl
  | dimensions hwords hempty => exact hwords.decode_of_empty hempty
  | unknownMode hwords hpos hcode hunknown =>
    exact hwords.decode_of_unknown hpos hcode hunknown
  | tooLarge hannounced hlarge => rw [hannounced.decode_eq, if_pos hlarge]
  | dataTooShort hannounced hstop hshort =>
    rw [hannounced.decode_eq, if_neg (Nat.not_le.2 hstop), if_pos hshort]

/-! ### The conditions one by one -/

theorem axisWords_or_refusal (b : Bytes) :
    (∃ nz ny nx, AxisWords b nz ny nx) ∨ ∃ cause, Refusal b cause := by
  by_cases hshort : b.length < headerSize
  · exact .inr ⟨_, .tooShort hshort⟩
  have hlong : 1024 ≤ b.length := Nat.le_of_not_lt hshort
  by_cases hbig : b.natAt 212 1 = .ok 0x11
  · exact .inr ⟨_, .bigEndian hlong hbig⟩
  obtain ⟨nz, hnz⟩ : ∃ w, wordAt b 8 = .ok w := wordAt_of_le (by omega)
  obtain ⟨ny, hny⟩ : ∃ w, wordAt b 4 = .ok w := wordAt_of_le (by omega)
  obtain ⟨nx, hnx⟩ : ∃ w, wordAt b 0 = .ok w := wordAt_of_le (by omega)
  exact .inl ⟨nz, ny, nx, hlong, hbig, hnz, hny, hnx⟩

theorem AxisWords.announced_or_refusal {b : Bytes} {nz ny nx : Int} (h : AxisWords b nz ny nx) :
    (∃ i, Announced b i) ∨ ∃ cause, Refusal b cause := by
  by_cases hempty : nz ≤ 0 ∨ ny ≤ 0 ∨ nx ≤ 0
  · exact .inr ⟨_, .dimensions h hempty⟩
  have hpos : 0 < nz ∧ 0 < ny ∧ 0 < nx := by omega
  have hlong : 1024 ≤ b.length := h.long
  obtain ⟨code, hcode⟩ : ∃ w, wordAt b 12 = .ok w := wordAt_of_le (by omega)
  obtain ⟨w, hw, -⟩ := h.extended
  by_cases hmode : ∃ mode : Mode, code = mode.code
  · obtain ⟨mode, rfl⟩ := hmode
    obtain ⟨nz, rfl⟩ := Int.eq_ofNat_of_zero_le (Int.le_of_lt hpos.1)
    obtain ⟨ny, rfl⟩ := Int.eq_ofNat_of_zero_le (Int.le_of_lt hpos.2.1)
    obtain ⟨nx, rfl⟩ := Int.eq_ofNat_of_zero_le (Int.le_of_lt hpos.2.2)
    refine .inl ⟨⟨nz, ny, nx, mode, w.toNat⟩, h, ?_, hcode, w, hw, rfl⟩
    simpa [ImageLayout.dims] using hpos
  · exact .inr ⟨_, .unknownMode h hpos hcode (not_exists.1 hmode)⟩

/-- An image whose cells all lie in a byte string, or the reason for which there is none. -/
theorem announced_or_refusal (b : Bytes) :
    (∃ i, Announced b i ∧ i.stop < wordLimit ∧ i.stop ≤ b.length) ∨ ∃ cause, Refusal b cause := by
  obtain ⟨nz, ny, nx, hwords⟩ | hrefusal := axisWords_or_refusal b
  · obtain ⟨i, hi⟩ | hrefusal := hwords.announced_or_refusal
    · by_cases hlarge : wordLimit ≤ i.stop
      · exact .inr ⟨_, .tooLarge hi hlarge⟩
      by_cases hshort : b.length < i.stop
      · exact .inr ⟨_, .dataTooShort hi (Nat.lt_of_not_le hlarge) hshort⟩
      exact .inl ⟨i, hi, Nat.lt_of_not_le hlarge, Nat.le_of_not_lt hshort⟩
    · exact .inr hrefusal
  · exact .inr hrefusal

/-- Each cell takes one byte at least. -/
theorem ImageLayout.volume_le_stop (i : ImageLayout) : volume i.dims ≤ i.stop := by
  have hsize := Nat.le_mul_of_pos_left (volume i.dims) i.mode.size_pos
  rw [i.stop_eq]
  omega

theorem ImageLayout.roomy_of_le {i : ImageLayout} {b : Bytes} (hstop : i.stop ≤ b.length)
    (hb : b.length < 2 ^ 61) : i.Roomy := by
  have hvolume := i.volume_le_stop
  rw [i.volume_dims] at hvolume
  exact .inr (by omega)

/-- A byte string holds an image for whose numbers there can be no room. -/
def Overfull (b : Bytes) : Prop :=
  ∃ i, Announced b i ∧ i.stop < wordLimit ∧ i.stop ≤ b.length ∧ ¬ i.Roomy

theorem not_overfull {b : Bytes} (hb : b.length < 2 ^ 61) : ¬ Overfull b := by
  rintro ⟨i, -, -, hlength, hroom⟩
  exact hroom (i.roomy_of_le hlength hb)

theorem decode_of_overfull {b : Bytes} (h : Overfull b) :
    decode b = .error (.fault .overflow) := by
  obtain ⟨i, hi, hstop, hlength, hroom⟩ := h
  rw [hi.decode_eq, if_neg (Nat.not_le.2 hstop), if_neg (Nat.not_lt.2 hlength), if_pos hroom]

theorem faultless_decode_or_overfull (b : Bytes) : (decode b).Faultless ∨ Overfull b := by
  obtain ⟨i, hi, hstop, hlength⟩ | ⟨cause, hcause⟩ := announced_or_refusal b
  · by_cases hroom : i.Roomy
    · rw [hi.decode_eq, if_neg (Nat.not_le.2 hstop), if_neg (Nat.not_lt.2 hlength),
        if_neg (not_not.2 hroom)]
      exact .inl (Attempt.faultless_ofExcept _)
    · exact .inr ⟨i, hi, hstop, hlength, hroom⟩
  · rw [decode_of_refusal hcause]
    exact .inl (Attempt.faultless_refuse cause)

end Mrc

end DetectorScan
