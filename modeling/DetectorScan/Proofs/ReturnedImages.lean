import DetectorScan.Proofs.ImageFiles

/-!
# Images written and read again

Arrays of one to three axes are written as images and come back with the same bits in their
cells. An array of any other rank is refused before a file is touched.
-/

namespace DetectorScan

namespace Mrc

/-! ### Ranks -/

/-- An array of this shape has the rank of an image. -/
def Writable (shape : List Nat) : Prop :=
  1 ≤ shape.length ∧ shape.length ≤ 3

instance (shape : List Nat) : Decidable (Writable shape) :=
  inferInstanceAs (Decidable (_ ∧ _))

theorem exists_axes?_iff {shape : List Nat} :
    (∃ axes, axes? shape = some axes) ↔ Writable shape := by
  match shape with
  | [] => simp [axes?, Writable]
  | [_] => simp [axes?, Writable]
  | [_, _] => simp [axes?, Writable]
  | [_, _, _] => simp [axes?, Writable]
  | _ :: _ :: _ :: _ :: _ => simp [axes?, Writable]

variable {g : Grid Binary32} {storage : Storage} {path : Path}

theorem exists_encode (h : Writable g.shape) : ∃ b, encode g = .ok b := by
  obtain ⟨⟨nz, ny, nx⟩, haxes⟩ := exists_axes?_iff.2 h
  exact ⟨_, encode_eq_ok_iff.2 ⟨nz, ny, nx, haxes, rfl⟩⟩

theorem encode_of_not_writable (h : ¬ Writable g.shape) :
    encode g = .error (.rank g.shape.length) := by
  have haxes : axes? g.shape = none := by
    rw [Option.eq_none_iff_forall_ne_some]
    intro axes haxes
    exact h (exists_axes?_iff.1 ⟨axes, haxes⟩)
  rw [encode, haxes]

/-! ### Writing -/

theorem write_of_not_writable (h : ¬ Writable g.shape) :
    write storage path g =
      (storage, .error (.correction (.image (.rank g.shape.length)))) := by
  rw [write, encode_of_not_writable h]

theorem write_of_target_error (h : Writable g.shape) {cause : StorageError}
    (htarget : storage.targetWay path = .error cause) :
    write storage path g = (storage, .error (.storage cause)) := by
  obtain ⟨b, hencode⟩ := exists_encode h
  rw [write, hencode]
  simp only [Storage.write_of_target_error htarget, mapError_error]

theorem exists_write (h : Writable g.shape) {way : List Char}
    (htarget : storage.targetWay path = .ok way) : 
    ∃ stored, write storage path g = (stored, .ok ()) := by
  obtain ⟨b, hencode⟩ := exists_encode h
  exact ⟨storage.put way (.ofBytes b),
    write_eq_ok_iff.2 ⟨b, hencode, Storage.write_eq_ok_iff.2 ⟨way, htarget, rfl⟩⟩⟩

/-- An array of one to three axes whose lengths a header can hold is written wherever a file can
be, and what is read from there has its cells, bit for bit, and its axes that are longer than
one. An array of another rank is refused, and the files stay as they are. -/
theorem written_images_come_back (g : Grid Binary32) (storage : Storage) (path : Path) :
    (Writable g.shape → (∀ d ∈ g.shape, 1 ≤ d ∧ d < 2 ^ 31) →
      headerSize + 4 * volume g.shape < 2 ^ 63 →
      (∀ cause, storage.targetWay path = .error cause →
        write storage path g = (storage, .error (.storage cause))) ∧
      ∀ way, storage.targetWay path = .ok way →
        ∃ stored back, write storage path g = (stored, .ok ()) ∧ read stored.view path = .ok back ∧
          back.shape = g.shape.filter (· ≠ 1) ∧ back.cells = g.cells ∧
          (g.cells.length = 1 → back.shape = [])) ∧
    (¬ Writable g.shape →
      write storage path g =
        (storage, .error (.correction (.image (.rank g.shape.length))))) := by
  refine ⟨?_, ?_⟩
  · intro hrank hdims hsize
    have hshape : Storable g.shape := by
      refine ⟨fun d hd => (hdims d hd).1, fun d hd => (hdims d hd).2, ?_⟩
      unfold wordLimit
      omega
    refine ⟨fun cause => write_of_target_error hrank, ?_⟩
    intro way htarget
    obtain ⟨stored, hstored⟩ := exists_write hrank htarget
    refine ⟨stored, g.squeezed, hstored, (heldAt_of_write hstored).read hshape, rfl, rfl, ?_⟩
    intro hone
    exact filter_ne_one_eq_nil (g.length_cells.symm.trans hone)
  · exact write_of_not_writable

/-- A column of three numbers, one of them a NaN and one a negative zero. -/
def column : Grid Binary32 :=
  ⟨[1, 3, 1], [⟨0x3FC00000⟩, ⟨0x7FC00001⟩, ⟨0x80000000⟩], rfl⟩

theorem column_comes_back_as_a_row :
    Writable column.shape ∧ (∀ d ∈ column.shape, 1 ≤ d ∧ d < 2 ^ 31) ∧
      headerSize + 4 * volume column.shape < 2 ^ 63 ∧
      (∃ stored back, write .empty ⟨"flat.mrc"⟩ column = (stored, .ok ()) ∧
        read stored.view ⟨"flat.mrc"⟩ = .ok back ∧ back.shape = [3] ∧
        back.cells = [⟨0x3FC00000⟩, ⟨0x7FC00001⟩, ⟨0x80000000⟩]) ∧
      ¬ Writable (Grid.filled [] Binary32.zero).shape ∧
      write .empty ⟨"flat.mrc"⟩ (.filled [] .zero) =
        (.empty, .error (.correction (.image (.rank 0)))) := by
  have hrank : Writable column.shape := by decide
  have hdims : ∀ d ∈ column.shape, 1 ≤ d ∧ d < 2 ^ 31 := by decide
  have hsize : headerSize + 4 * volume column.shape < 2 ^ 63 := by decide
  have htarget : Storage.empty.targetWay ⟨"flat.mrc"⟩ = .ok "flat.mrc".toList := by decide
  have hpoint : ¬ Writable (Grid.filled [] Binary32.zero).shape := by decide
  obtain ⟨stored, back, hwrite, hread, hshape, hcells, -⟩ :=
    ((written_images_come_back column .empty ⟨"flat.mrc"⟩).1 hrank hdims hsize).2 _ htarget
  exact ⟨hrank, hdims, hsize, ⟨stored, back, hwrite, hread, hshape, hcells⟩, hpoint,
    (written_images_come_back _ .empty ⟨"flat.mrc"⟩).2 hpoint⟩

end Mrc

end DetectorScan
