import DetectorScan.Proofs.ImageLayouts
import DetectorScan.Proofs.StoredFiles
import DetectorScan.ReadError

/-!
# Images that come back

An image of one to three axes that is written to a file is read from there with the same
cells and without its axes of length one.
-/

namespace DetectorScan

/-! ### Axes of length one -/

namespace Grid

/-- The grid without its axes of length one. -/
def squeezed {α : Type} (g : Grid α) : Grid α :=
  ⟨g.shape.filter (· ≠ 1), g.cells, by rw [g.length_cells, volume_filter_ne_one]⟩

theorem shape_squeezed {α : Type} (g : Grid α) : g.squeezed.shape = g.shape.filter (· ≠ 1) := rfl

theorem squeezed_eq_self {α : Type} {g : Grid α} (h : 1 ∉ g.shape) : g.squeezed = g := by
  obtain ⟨shape, cells, hcells⟩ := g
  have hshape : shape.filter (· ≠ 1) = shape := by
    rw [List.filter_eq_self]
    exact fun d hd => decide_eq_true fun hone => h (hone ▸ hd)
  simp only [squeezed, hshape]

end Grid

/-! ### Numbers in a header -/

namespace Mrc

theorem signed_value_word {n : Nat} (h : n < 2 ^ 31) :
    Mode.signed 4 (Bytes.value (Bytes.ofNat 4 n)) = n := by
  have hword : n < Nat.pow 256 4 := Nat.lt_trans h (by decide)
  have hdouble : 2 * n < Nat.pow 256 4 := Nat.mul_lt_mul_of_pos_left h (by decide)
  rw [Bytes.value_ofNat_of_lt hword, Mode.signed, if_pos hdouble]

theorem length_file (nz ny nx : Nat) (cells : Bytes) :
    (header nz ny nx ++ cells).length = headerSize + cells.length := by
  rw [List.length_append, length_header]

theorem wordAt_file {nz ny nx offset n : Nat} {cells : Bytes} (hoffset : offset + 4 ≤ headerSize)
    (hn : n < 2 ^ 31)
    (hword : ((header nz ny nx ++ cells).drop offset).take 4 = Bytes.ofNat 4 n) :
    wordAt (header nz ny nx ++ cells) offset = .ok (n : Int) := by
  have hinside : offset + 4 ≤ (header nz ny nx ++ cells).length := by
    rw [length_file]
    omega
  rw [wordAt_eq_ok hinside, hword, signed_value_word hn]

theorem mark_file (nz ny nx : Nat) (cells : Bytes) :
    (header nz ny nx ++ cells).natAt 212 1 = .ok 0x44 := by
  have hinside : 212 + 1 ≤ (header nz ny nx ++ cells).length := by
    rw [length_file, headerSize]
    omega
  rw [Bytes.natAt_of_le hinside]
  rfl

/-! ### Three axes -/

theorem axes?_eq_some {shape : List Nat} {nz ny nx : Nat}
    (h : axes? shape = some (nz, ny, nx)) :
    [nz, ny, nx] = 1 :: 1 :: shape ∨ [nz, ny, nx] = 1 :: shape ∨ [nz, ny, nx] = shape := by
  unfold axes? at h
  split at h
  · cases h
    exact .inl rfl
  · cases h
    exact .inr (.inl rfl)
  · cases h
    exact .inr (.inr rfl)
  · contradiction

theorem filter_axes {shape : List Nat} {nz ny nx : Nat} (h : axes? shape = some (nz, ny, nx)) :
    [nz, ny, nx].filter (· ≠ 1) = shape.filter (· ≠ 1) := by
  rcases axes?_eq_some h with h | h | h <;> simp [h]

theorem eq_one_or_mem_of_axes {shape : List Nat} {nz ny nx d : Nat}
    (h : axes? shape = some (nz, ny, nx)) (hd : d ∈ [nz, ny, nx]) : d = 1 ∨ d ∈ shape := by
  rcases axes?_eq_some h with h | h | h <;> rw [h] at hd <;> simp_all

theorem volume_axes {shape : List Nat} {nz ny nx : Nat} (h : axes? shape = some (nz, ny, nx)) :
    volume [nz, ny, nx] = volume shape := by
  rw [← volume_filter_ne_one, filter_axes h, volume_filter_ne_one]

/-! ### Cells -/

theorem length_cells (cells : List Binary32) :
    (cells.flatMap Binary32.toBytes).length = 4 * cells.length := by
  induction cells with
  | nil => rfl
  | cons x cells ih =>
    rw [List.flatMap_cons, List.length_append, Binary32.length_toBytes, ih, List.length_cons]
    omega

theorem items_cells (cells : List Binary32) :
    (Bytes.items 4 (cells.flatMap Binary32.toBytes)).map (Mode.cell .float32) = cells := by
  induction cells with
  | nil => rfl
  | cons x cells ih =>
    rw [List.flatMap_cons, Bytes.items_append _ x.length_toBytes (by decide), List.map_cons, ih]
    exact congrArg (· :: cells) x.ofPattern_value_toBytes

/-! ### Images -/

theorem encode_eq_ok_iff {g : Grid Binary32} {b : Bytes} :
    encode g = .ok b ↔ ∃ nz ny nx, axes? g.shape = some (nz, ny, nx)
      ∧ b = header nz ny nx ++ g.cells.flatMap Binary32.toBytes := by
  rw [encode]
  cases axes? g.shape with
  | none => simp
  | some axes =>
    obtain ⟨nz, ny, nx⟩ := axes
    simp [eq_comm]

/-- The axes that a header can announce and whose cells a reader can count. -/
structure Storable (shape : List Nat) : Prop where
  pos : ∀ d ∈ shape, 0 < d
  lt : ∀ d ∈ shape, d < 2 ^ 31
  size : 4 * volume shape + headerSize < wordLimit

/-- The header of a file announces the image behind it. -/
theorem announced_header {g : Grid Binary32} {nz ny nx : Nat}
    (haxes : axes? g.shape = some (nz, ny, nx)) (h : Storable g.shape) (cells : Bytes) :
    Announced (header nz ny nx ++ cells) ⟨nz, ny, nx, .float32, 0⟩ := by
  have hdims : ∀ d ∈ [nz, ny, nx], 0 < d ∧ d < 2 ^ 31 := by
    intro d hd
    rcases eq_one_or_mem_of_axes haxes hd with rfl | hd
    · exact ⟨Nat.one_pos, by decide⟩
    · exact ⟨h.pos d hd, h.lt d hd⟩
  exact {
    long := by rw [length_file]; exact Nat.le_add_right ..
    littleEndian := by rw [mark_file]; decide
    nz_word := wordAt_file (by decide) (hdims nz (by simp)).2 rfl
    ny_word := wordAt_file (by decide) (hdims ny (by simp)).2 rfl
    nx_word := wordAt_file (by decide) (hdims nx (by simp)).2 rfl
    pos := fun d hd => (hdims d hd).1
    mode_word := wordAt_file (by decide) (by decide) rfl
    extended_word := ⟨0, wordAt_file (by decide) (by decide) rfl, rfl⟩ }

theorem decode_encode {g : Grid Binary32} {b : Bytes} (hencode : encode g = .ok b)
    (h : Storable g.shape) : decode b = .ok g.squeezed := by
  obtain ⟨nz, ny, nx, haxes, rfl⟩ := encode_eq_ok_iff.1 hencode
  let i : ImageLayout := ⟨nz, ny, nx, .float32, 0⟩
  have hannounced : Announced (header nz ny nx ++ g.cells.flatMap Binary32.toBytes) i :=
    announced_header haxes h _
  have hdims : i.dims.filter (· ≠ 1) = g.shape.filter (· ≠ 1) := filter_axes haxes
  have hvolume : volume i.dims = volume g.shape := volume_axes haxes
  have hstop : i.stop = 4 * volume g.shape + headerSize := by
    rw [i.stop_eq, hvolume]
    rfl
  have hstored : (g.cells.flatMap Binary32.toBytes).length = 4 * volume g.shape := by
    rw [length_cells, g.length_cells]
  have hlength : (header nz ny nx ++ g.cells.flatMap Binary32.toBytes).length = i.stop := by
    rw [length_file, hstored, hstop, Nat.add_comm]
  have hcells : i.cells (header nz ny nx ++ g.cells.flatMap Binary32.toBytes) = g.cells := by
    have hstart : i.start = headerSize := rfl
    rw [ImageLayout.cells, hstart, List.drop_left' (length_header ..),
      List.take_of_length_le (by omega)]
    exact items_cells g.cells
  have hword : i.stop < wordLimit := hstop ▸ h.size
  have hmemory : volume i.dims ≤ maxObjectSize := by
    unfold wordLimit at hword
    unfold maxObjectSize
    omega
  rw [hannounced.decode_eq_ok (Nat.le_of_eq hlength.symm) hword (.inl rfl) hmemory]
  simp only [hdims, hcells]
  rfl

/-! ### Files -/

/-- The file at a path is what writing an image gives. -/
def HeldAt (files : FileView) (path : Path) (g : Grid Binary32) : Prop :=
  ∃ b, encode g = .ok b ∧ files.map path = .ok (.ofBytes b)

theorem HeldAt.read {files : FileView} {path : Path} {g : Grid Binary32}
    (h : HeldAt files path g) (hshape : Storable g.shape) :
    read files path = .ok g.squeezed := by
  obtain ⟨b, hencode, hmap⟩ := h
  rw [Mrc.read, hmap, mapError_ok, Attempt.ofExcept_ok, ok_bind,
    FileContent.toBytes_ofBytes, decode_encode hencode hshape]
  rfl

theorem write_eq_ok_iff {storage stored : Storage} {path : Path} {g : Grid Binary32} :
    write storage path g = (stored, .ok ()) ↔
      ∃ b, encode g = .ok b ∧ storage.write path b = (stored, .ok ()) := by
  rw [write]
  cases encode g with
  | error cause => simp
  | ok b => simp [Prod.ext_iff, mapError_eq_ok]

theorem heldAt_of_write {storage stored : Storage} {path : Path} {g : Grid Binary32}
    (h : write storage path g = (stored, .ok ())) : HeldAt stored.view path g := by
  obtain ⟨b, hencode, hwrite⟩ := write_eq_ok_iff.1 h
  exact ⟨b, hencode, Storage.map_write_self hwrite⟩

end Mrc

end DetectorScan
