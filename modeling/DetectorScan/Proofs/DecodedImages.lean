import DetectorScan.Proofs.ExactNumbers
import DetectorScan.Proofs.ImageLayouts

/-!
# Decoded images

A byte string is decoded exactly when its header announces an image, the cells of the image lie
in it, and there can be room for their numbers. The grid then has the numbers that are stored
for the cells, in their order, and whatever follows the last of them makes no difference.
-/

namespace DetectorScan

namespace Bytes

/-! ### Byte strings with a common beginning -/

variable {b c : Bytes} {size : Nat}

theorem length_of_take (hb : size ≤ b.length) (h : c.take size = b.take size) :
    size ≤ c.length := by
  have hlength := congrArg List.length h
  rw [List.length_take, List.length_take] at hlength
  omega

theorem natAt_congr {offset width : Nat} (hb : size ≤ b.length) (h : c.take size = b.take size)
    (hinside : offset + width ≤ size) : c.natAt offset width = b.natAt offset width := by
  have hc := length_of_take hb h
  have hpart : ∀ a : Bytes,
      (a.drop offset).take width = ((a.take size).drop offset).take width := by
    intro a
    rw [List.drop_take, List.take_take, Nat.min_eq_left (by omega)]
  rw [natAt_of_le (by omega), natAt_of_le (by omega), hpart b, hpart c, h]

end Bytes

/-! ### Numbers in cells -/

namespace Mrc

open Bytes

namespace Mode

/-- A number of the 32-bit format stands for what is stored in a cell: it has the value of a
stored integer, and the bits of a stored number of that format. -/
def Shows : Mode → Nat → Binary32 → Prop
  | .int8, n, x => x.value? = some (signed 1 n : ℚ)
  | .int16, n, x => x.value? = some (signed 2 n : ℚ)
  | .float32, n, x => x.bits.toNat = n
  | .uint16, n, x => x.value? = some (n : ℚ)

theorem natAbs_signed_le {size n : Nat} (h : n < Nat.pow 256 size) :
    (signed size n).natAbs ≤ Nat.pow 256 size := by
  unfold signed
  split <;> omega

theorem shows_cell {mode : Mode} {n : Nat} (h : n < Nat.pow 256 mode.size) :
    mode.Shows n (mode.cell n) := by
  cases mode with
  | int8 => exact Binary32.value?_ofInt ((natAbs_signed_le h).trans (by decide))
  | int16 => exact Binary32.value?_ofInt ((natAbs_signed_le h).trans (by decide))
  | float32 => exact Binary32.toNat_ofPattern h
  | uint16 =>
    have hn : n ≤ 2 ^ 24 := Nat.le_trans (Nat.le_of_lt h) (by decide)
    exact Binary32.value?_ofNat hn

end Mode

/-! ### Cells in a byte string -/

namespace ImageLayout

variable {i : ImageLayout} {b c : Bytes}

/-- A grid with the axes of an image that are longer than one. Its cells stand for the numbers
that a byte string stores for the image, one behind the other. -/
structure StoredIn (i : ImageLayout) (b : Bytes) (g : Grid Binary32) : Prop where
  shape_eq : g.shape = i.dims.filter (· ≠ 1)
  cell : ∀ k < i.nz * i.ny * i.nx, ∃ n,
    b.natAt (i.start + k * i.mode.size) i.mode.size = .ok n ∧
      g.cells[k]? = some (i.mode.cell n) ∧ i.mode.Shows n (i.mode.cell n)

theorem getElem?_cells (h : i.stop ≤ b.length) {k : Nat} (hk : k < i.nz * i.ny * i.nx) :
    ∃ n, b.natAt (i.start + k * i.mode.size) i.mode.size = .ok n ∧
      (i.cells b)[k]? = some (i.mode.cell n) := by
  have hsize : i.stop - i.start = i.nz * i.ny * i.nx * i.mode.size := Nat.add_sub_cancel_left ..
  have hinside : (k + 1) * i.mode.size ≤ i.stop - i.start := by
    rw [hsize]
    exact Nat.mul_le_mul_right _ hk
  have hfits : i.start + (i.stop - i.start) ≤ b.length := by
    rwa [Nat.add_sub_cancel' i.start_le_stop]
  obtain ⟨n, hn, hitem⟩ := Bytes.natAt_items hfits i.mode.size_pos hinside
  exact ⟨n, hn, by rw [cells, List.getElem?_map, hitem]; rfl⟩

theorem cells_congr (h : c.take i.stop = b.take i.stop) : i.cells c = i.cells b := by
  rw [cells, cells, ← List.drop_take, ← List.drop_take, h]

end ImageLayout

/-! ### Bytes that make no difference -/

variable {b c : Bytes} {i : ImageLayout}

theorem wordAt_congr {size offset : Nat} (hb : size ≤ b.length) (h : c.take size = b.take size)
    (hoffset : offset + 4 ≤ size) : wordAt c offset = wordAt b offset := by
  rw [wordAt, wordAt, natAt_congr hb h hoffset]

theorem Announced.congr (hi : Announced b i) (h : c.take headerSize = b.take headerSize) :
    Announced c i := by
  have hlong := hi.long
  obtain ⟨w, hw, hextended⟩ := hi.extended_word
  exact {
    long := length_of_take hlong h
    littleEndian := by
      rw [natAt_congr hlong h (by decide)]
      exact hi.littleEndian
    nz_word := (wordAt_congr hlong h (by decide)).trans hi.nz_word
    ny_word := (wordAt_congr hlong h (by decide)).trans hi.ny_word
    nx_word := (wordAt_congr hlong h (by decide)).trans hi.nx_word
    pos := hi.pos
    mode_word := (wordAt_congr hlong h (by decide)).trans hi.mode_word
    extended_word := ⟨w, (wordAt_congr hlong h (by decide)).trans hw, hextended⟩ }

/-- Only the bytes up to the last cell are looked at. -/
theorem Announced.decode_congr (hi : Announced b i) (hstop : i.stop ≤ b.length)
    (h : c.take i.stop = b.take i.stop) : decode c = decode b := by
  have hheader : c.take headerSize = b.take headerSize := by
    have hle : headerSize ≤ i.stop := (Nat.le_add_right ..).trans i.start_le_stop
    rw [← Nat.min_eq_left hle, ← List.take_take, ← List.take_take, h]
  have hlength := length_of_take hstop h
  rw [hi.decode_eq, (hi.congr hheader).decode_eq, i.cells_congr h,
    if_neg (Nat.not_lt.2 hstop), if_neg (Nat.not_lt.2 hlength)]

/-! ### Images in memory -/

/-- What is read where a byte string that fits into memory has all the cells of an image. -/
theorem Announced.exists_storedIn (hi : Announced b i) (hstop : i.stop ≤ b.length)
    (hroom : i.Roomy) (hb : b.length < 2 ^ 63) : ∃ g, decode b = .ok g ∧ i.StoredIn b g := by
  have hvolume := i.volume_le_stop
  have hmemory : volume i.dims ≤ maxObjectSize := by
    unfold maxObjectSize
    omega
  have hword : i.stop < wordLimit := by
    unfold wordLimit
    omega
  refine ⟨_, hi.decode_eq_ok hstop hword hroom hmemory, rfl, ?_⟩
  intro k hk
  obtain ⟨n, hn, hcell⟩ := i.getElem?_cells hstop hk
  exact ⟨n, hn, hcell, Mode.shows_cell (Bytes.natAt_lt hn)⟩

theorem Announced.decode_of_not_roomy (hi : Announced b i) (hstop : i.stop ≤ b.length)
    (hroom : ¬ i.Roomy) (hb : b.length < 2 ^ 63) : decode b = .error (.fault .overflow) := by
  have hword : i.stop < wordLimit := by
    unfold wordLimit
    omega
  rw [hi.decode_eq, if_neg (Nat.not_le.2 hword), if_neg (Nat.not_lt.2 hstop), if_pos hroom]

/-- How decoding can end: with the stored image, because there can be no room for its numbers,
or with a refusal. -/
theorem decode_cases (hb : b.length < 2 ^ 63) :
    (∃ i g, Announced b i ∧ i.stop ≤ b.length ∧ i.Roomy ∧ decode b = .ok g) ∨
      (∃ i, Announced b i ∧ i.stop ≤ b.length ∧ ¬ i.Roomy ∧
        decode b = .error (.fault .overflow)) ∨
      ∃ cause, Refusal b cause ∧ decode b = Attempt.refuse cause := by
  obtain ⟨i, hi, -, hstop⟩ | ⟨cause, hcause⟩ := announced_or_refusal b
  · by_cases hroom : i.Roomy
    · obtain ⟨g, hg, -⟩ := hi.exists_storedIn hstop hroom hb
      exact .inl ⟨i, g, hi, hstop, hroom, hg⟩
    · exact .inr (.inl ⟨i, hi, hstop, hroom, hi.decode_of_not_roomy hstop hroom hb⟩)
  · exact .inr (.inr ⟨cause, hcause, decode_of_refusal hcause⟩)

theorem not_refusal_shape {cause : ShapeFault} : ¬ Refusal b (.shape cause) := by
  intro h
  cases h

theorem decode_eq_refuse_iff (hb : b.length < 2 ^ 63) {cause : MrcError} :
    decode b = Attempt.refuse cause ↔ Refusal b cause := by
  constructor
  · intro h
    obtain ⟨-, g, -, -, -, hg⟩ | ⟨-, -, -, -, hfault⟩ | ⟨other, hother, hrefused⟩ :=
      decode_cases hb
    · cases hg.symm.trans h
    · cases hfault.symm.trans h
    · cases hrefused.symm.trans h
      exact hother
  · exact decode_of_refusal

theorem exists_decode_iff (hb : b.length < 2 ^ 63) :
    (∃ g, decode b = .ok g) ↔ ∃ i, Announced b i ∧ i.stop ≤ b.length ∧ i.Roomy := by
  constructor
  · intro ⟨g, hg⟩
    obtain ⟨i, -, hi, hstop, hroom, -⟩ | ⟨-, -, -, -, hfault⟩ | ⟨cause, -, hrefused⟩ :=
      decode_cases hb
    · exact ⟨i, hi, hstop, hroom⟩
    · cases hfault.symm.trans hg
    · cases hrefused.symm.trans hg
  · intro ⟨i, hi, hstop, hroom⟩
    obtain ⟨g, hg, -⟩ := hi.exists_storedIn hstop hroom hb
    exact ⟨g, hg⟩

theorem decode_eq_fault_iff (hb : b.length < 2 ^ 63) {f : Fault} :
    decode b = .error (.fault f) ↔
      f = .overflow ∧ ∃ i, Announced b i ∧ i.stop ≤ b.length ∧ ¬ i.Roomy := by
  constructor
  · intro h
    obtain ⟨-, g, -, -, -, hg⟩ | ⟨i, hi, hstop, hroom, hfault⟩ | ⟨cause, -, hrefused⟩ :=
      decode_cases hb
    · cases hg.symm.trans h
    · cases hfault.symm.trans h
      exact ⟨rfl, i, hi, hstop, hroom⟩
    · cases hrefused.symm.trans h
  · rintro ⟨rfl, i, hi, hstop, hroom⟩
    exact hi.decode_of_not_roomy hstop hroom hb

/-- Decoding a byte string that fits into memory ends with a grid or with a refusal, but for an
image of `2 ^ 61` cells or more that are smaller than their numbers, for which there can be no
room. There is a grid exactly when a header announces an image, all cells of the image lie in
the byte string and there can be room for their numbers. A refusal is that of the first
condition that fails, and never that the cells do not fit the axes. The grid is the stored
image, and depends on no byte behind its last cell. -/
theorem decoding_reads_the_announced_image {b : Bytes} (hb : b.length < 2 ^ 63) :
    (∀ f, decode b = .error (.fault f) ↔
      f = .overflow ∧ ∃ i, Announced b i ∧ i.stop ≤ b.length ∧ ¬ i.Roomy) ∧
      ((∃ g, decode b = .ok g) ↔ ∃ i, Announced b i ∧ i.stop ≤ b.length ∧ i.Roomy) ∧
      (∀ cause, decode b = Attempt.refuse cause ↔ Refusal b cause) ∧
      (∀ cause, decode b ≠ Attempt.refuse (.shape cause)) ∧
      ∀ i, Announced b i → i.stop ≤ b.length → i.Roomy →
        ∃ g, decode b = .ok g ∧ i.StoredIn b g ∧
          ∀ c : Bytes, c.take i.stop = b.take i.stop → decode c = .ok g := by
  refine ⟨fun f => decode_eq_fault_iff hb, exists_decode_iff hb,
    fun cause => decode_eq_refuse_iff hb, ?_, ?_⟩
  · intro cause h
    exact not_refusal_shape ((decode_eq_refuse_iff hb).1 h)
  · intro i hi hstop hroom
    obtain ⟨g, hg, hstored⟩ := hi.exists_storedIn hstop hroom hb
    exact ⟨g, hg, hstored, fun c hc => (hi.decode_congr hstop hc).trans hg⟩

/-- Two cells of one byte each behind a second header of two bytes, and a byte that belongs to
no cell. -/
def twoCells : Bytes :=
  let word := Bytes.ofNat 4
  assemble 0 [(0, word 2), (4, word 1), (8, word 1), (12, word 0), (92, word 2)] ++
    [9, 9, 5, 0xFB, 7]

def twoCellsLayout : ImageLayout := ⟨1, 1, 2, .int8, 2⟩

theorem length_twoCells : twoCells.length = 1029 := by
  simp only [twoCells, assemble, headerSize, List.length_append, List.length_replicate,
    length_ofNat, List.length_cons, List.length_nil]

theorem announced_twoCells : Announced twoCells twoCellsLayout where
  long := by rw [length_twoCells]; decide
  littleEndian := by decide +kernel
  nz_word := by decide +kernel
  ny_word := by decide +kernel
  nx_word := by decide +kernel
  pos := by decide
  mode_word := by decide +kernel
  extended_word := ⟨2, by decide +kernel, rfl⟩

theorem two_cells_are_decoded :
    twoCells.length < 2 ^ 63 ∧ Announced twoCells twoCellsLayout ∧
      twoCellsLayout.stop ≤ twoCells.length ∧ twoCellsLayout.Roomy ∧
      ∃ g, decode twoCells = .ok g ∧ g.shape = [2] ∧
        g.cells[0]? = some (.ofInt 5) ∧ g.cells[1]? = some (.ofInt (-5)) ∧
        decode (twoCells.take 1028 ++ [1, 2, 3]) = .ok g := by
  have hb : twoCells.length < 2 ^ 63 := by rw [length_twoCells]; decide
  have hstop : twoCellsLayout.stop ≤ twoCells.length := by rw [length_twoCells]; decide
  have hroom : twoCellsLayout.Roomy := by decide
  have hfive : twoCells.natAt 1026 1 = .ok 5 := by decide +kernel
  have hminusFive : twoCells.natAt 1027 1 = .ok 0xFB := by decide +kernel
  obtain ⟨-, -, -, -, hread⟩ := decoding_reads_the_announced_image hb
  obtain ⟨g, hg, hstored, hsame⟩ := hread twoCellsLayout announced_twoCells hstop hroom
  obtain ⟨n, hn, hfirst, -⟩ := hstored.cell 0 (by decide)
  obtain ⟨m, hm, hsecond, -⟩ := hstored.cell 1 (by decide)
  obtain rfl : 5 = n := Except.ok.inj (hfive.symm.trans hn)
  obtain rfl : 0xFB = m := Except.ok.inj (hminusFive.symm.trans hm)
  exact ⟨hb, announced_twoCells, hstop, hroom, g, hg, hstored.shape_eq, hfirst, hsecond,
    hsame _ (by decide +kernel)⟩

/-- The header of a cube of `2 ^ 61` cells of one byte each. -/
def cubeHeader : Bytes :=
  let word := Bytes.ofNat 4
  assemble 0 [(0, word (2 ^ 20)), (4, word (2 ^ 20)), (8, word (2 ^ 21)), (12, word 0)]

def cubeLayout : ImageLayout := ⟨2 ^ 21, 2 ^ 20, 2 ^ 20, .int8, 0⟩

theorem length_cubeHeader : cubeHeader.length = headerSize := by
  simp only [cubeHeader, assemble, headerSize, List.length_append, List.length_replicate,
    length_ofNat]

theorem announced_cubeHeader : Announced cubeHeader cubeLayout where
  long := Nat.le_of_eq length_cubeHeader.symm
  littleEndian := by decide +kernel
  nz_word := by decide +kernel
  ny_word := by decide +kernel
  nx_word := by decide +kernel
  pos := by decide
  mode_word := by decide +kernel
  extended_word := ⟨0, by decide +kernel, rfl⟩

theorem cube_of_zeros_is_not_decoded :
    (cubeHeader ++ List.replicate (2 ^ 61) 0).length < 2 ^ 63 ∧
      Announced (cubeHeader ++ List.replicate (2 ^ 61) 0) cubeLayout ∧
      cubeLayout.stop ≤ (cubeHeader ++ List.replicate (2 ^ 61) 0).length ∧
      decode (cubeHeader ++ List.replicate (2 ^ 61) 0) = .error (.fault .overflow) := by
  have hlength : (cubeHeader ++ List.replicate (2 ^ 61) (0 : UInt8)).length = 1024 + 2 ^ 61 := by
    rw [List.length_append, length_cubeHeader, List.length_replicate, headerSize]
  have hb : (cubeHeader ++ List.replicate (2 ^ 61) (0 : UInt8)).length < 2 ^ 63 := by
    rw [hlength]
    decide
  have hannounced : Announced (cubeHeader ++ List.replicate (2 ^ 61) 0) cubeLayout :=
    announced_cubeHeader.congr (by
      rw [List.take_left' length_cubeHeader, List.take_of_length_le length_cubeHeader.le])
  have hstop : cubeLayout.stop ≤ (cubeHeader ++ List.replicate (2 ^ 61) (0 : UInt8)).length := by
    rw [hlength]
    decide
  have hroom : ¬ cubeLayout.Roomy := by decide
  exact ⟨hb, hannounced, hstop, hannounced.decode_of_not_roomy hstop hroom hb⟩

end Mrc

end DetectorScan
