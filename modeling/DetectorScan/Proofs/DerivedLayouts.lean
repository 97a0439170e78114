import DetectorScan.Proofs.Opening

/-!
# Layouts of files

Whatever a header says and however long its file is, computing the layout of the file has no
fault. There is a layout exactly when the pixels have a size that is read and a record holds a
frame, both in exact numbers. It counts the whole records of the file, and the descriptor of a
dataset with this layout finds each of them inside the file.
-/

namespace DetectorScan

/-- A record of a header is not empty and holds a frame, whose pixels have one of the sizes
that are read. -/
structure Header.RecordHoldsFrame (h : Header) : Prop where
  bits : h.bitDepth.toNat ∈ [8, 16, 32, 64]
  record_pos : 0 < h.trueImageSize.toNat
  frame_le : h.width.toNat * h.height.toNat * (h.bitDepth.toNat / 8) ≤ h.trueImageSize.toNat

theorem ElementType.exists_ofBitDepth?_iff {bits : Nat} :
    (∃ element, ofBitDepth? bits = some element) ↔ bits ∈ [8, 16, 32, 64] := by
  constructor
  · rintro ⟨element, h⟩
    rw [ofBitDepth?_eq_some.1 h]
    cases element <;> decide
  · intro h
    simp only [List.mem_cons, List.not_mem_nil, or_false] at h
    rcases h with rfl | rfl | rfl | rfl
    · exact ⟨.uint8, rfl⟩
    · exact ⟨.uint16, rfl⟩
    · exact ⟨.uint32, rfl⟩
    · exact ⟨.uint64, rfl⟩

/-- Arithmetic may fault, but it never refuses. -/
theorem Attempt.liftM_bind_eq_refuse {ε α β : Type} {x : Checked α} {g : α → Attempt ε β}
    {cause : ε} : ((liftM x : Attempt ε α) >>= g) = refuse cause ↔
      ∃ a, x = .ok a ∧ g a = refuse cause := by
  cases x <;> simp [refuse]

/-! ### Counting records -/

theorem countFrames_bounds {fileSize offset record : Nat} (hpos : 0 < record)
    (hle : offset ≤ fileSize) :
    offset + countFrames fileSize offset record * record ≤ fileSize ∧
      fileSize < offset + (countFrames fileSize offset record + 1) * record := by
  have hlow := Nat.div_mul_le_self (fileSize - offset) record
  have hhigh := Nat.lt_mul_div_succ (fileSize - offset) hpos
  rw [Nat.mul_comm] at hhigh
  rw [countFrames]
  omega

theorem countFrames_of_lt {fileSize offset : Nat} (record : Nat) (hlt : fileSize < offset) :
    countFrames fileSize offset record = 0 := by
  rw [countFrames, Nat.sub_eq_zero_of_le hlt.le, Nat.zero_div]

theorem countFrames_mono {fileSize larger : Nat} (offset record : Nat) (h : fileSize ≤ larger) :
    countFrames fileSize offset record ≤ countFrames larger offset record :=
  Nat.div_le_div_right (Nat.sub_le_sub_right h offset)

/-- A record that is counted lies inside the file. -/
theorem end_le_of_lt_countFrames {fileSize offset record i : Nat} (hpos : 0 < record)
    (hi : i < countFrames fileSize offset record) : offset + i * record + record ≤ fileSize := by
  have hle : offset ≤ fileSize := by
    by_contra hshort
    rw [countFrames_of_lt record (by omega)] at hi
    omega
  have hbound := (countFrames_bounds hpos hle).1
  have hrecord := Nat.mul_le_mul_right record (show i + 1 ≤ _ from hi)
  rw [Nat.add_mul, Nat.one_mul] at hrecord
  omega

/-! ### Computing a layout -/

namespace Geometry

variable {h : Header} {fileSize : Nat} {g : Geometry}

theorem frameSize?_of_lt {width height size : Nat} (hpos : 0 < size)
    (hlt : width * height * size < wordLimit) :
    frameSize? width height size = some (width * height * size) := by
  have hpixels : width * height < wordLimit :=
    Nat.lt_of_le_of_lt (Nat.le_mul_of_pos_right _ hpos) hlt
  rw [frameSize?, Word.mul_of_lt hpixels]
  simp [Word.mul_of_lt hlt, Except.toOption]

theorem element_of_derive (hg : derive h fileSize = .ok g) :
    ElementType.ofBitDepth? h.bitDepth.toNat = some g.element := by
  simp only [derive, Attempt.refuse, error_bind] at hg
  split at hg
  · next element helement =>
    split at hg
    · split at hg
      · contradiction
      split at hg
      · contradiction
      obtain ⟨_, _, hg⟩ := bind_eq_ok.1 hg
      obtain ⟨_, _, hg⟩ := bind_eq_ok.1 hg
      cases hg
      exact helement
    · contradiction
  · contradiction

/-- The pixels of a frame that is derived are counted in the bytes of its header. -/
theorem DerivedFrom.frameBytes_eq_header (hd : g.DerivedFrom h fileSize)
    (helement : ElementType.ofBitDepth? h.bitDepth.toNat = some g.element) :
    g.frameBytes = h.width.toNat * h.height.toNat * (h.bitDepth.toNat / 8) := by
  rw [hd.frameBytes_eq, hd.height_eq, hd.width_eq, ElementType.ofBitDepth?_eq_some.1 helement,
    Nat.mul_div_cancel_left _ (by decide), Nat.mul_comm h.height.toNat]

theorem recordHoldsFrame_of_derive (hg : derive h fileSize = .ok g) : h.RecordHoldsFrame := by
  have hd := derivedFrom_of_derive hg
  have helement := element_of_derive hg
  refine ⟨ElementType.exists_ofBitDepth?_iff.1 ⟨_, helement⟩, hd.recordBytes_eq ▸ hd.record_pos, ?_⟩
  rw [← hd.frameBytes_eq_header helement, ← hd.recordBytes_eq]
  exact hd.frameBytes_le

theorem exists_derive (hh : h.RecordHoldsFrame) (hsize : fileSize < wordLimit) :
    ∃ g, derive h fileSize = .ok g := by
  obtain ⟨element, helement⟩ := ElementType.exists_ofBitDepth?_iff.2 hh.bits
  have hpos := hh.record_pos
  have hframe := hh.frame_le
  rw [ElementType.ofBitDepth?_eq_some.1 helement, Nat.mul_div_cancel_left _ (by decide)] at hframe
  have hrecord := h.trueImageSize.toNat_lt
  have hword : 2 ^ 32 < wordLimit := by decide
  have hbytes : frameSize? h.width.toNat h.height.toNat element.size =
      some (h.width.toNat * h.height.toNat * element.size) :=
    frameSize?_of_lt element.size_pos (by omega)
  obtain ⟨g, hg⟩ | ⟨cause, hcause⟩ := (faultless_derive h hsize).ok_or_refuse
  · exact ⟨g, hg⟩
  · -- behind the checks only the arithmetic is left, which never refuses
    simp only [derive, helement, hbytes, if_neg (show ¬h.trueImageSize.toNat = 0 by omega),
      if_neg (show ¬h.trueImageSize.toNat < h.width.toNat * h.height.toNat * element.size by omega)]
      at hcause
    obtain ⟨records, -, hcause⟩ := Attempt.liftM_bind_eq_refuse.1 hcause
    obtain ⟨used, -, hcause⟩ := Attempt.liftM_bind_eq_refuse.1 hcause
    cases hcause

/-- Whole records are counted: as many as fit behind the offset, and no more. -/
structure CountsRecords (g : Geometry) (fileSize : Nat) : Prop where
  end_le : g.imageOffset ≤ fileSize →
    g.imageOffset + g.frameCount * g.recordBytes ≤ fileSize
  lt_next : g.imageOffset ≤ fileSize →
    fileSize < g.imageOffset + (g.frameCount + 1) * g.recordBytes
  eq_zero : fileSize < g.imageOffset → g.frameCount = 0

theorem DerivedFrom.countsRecords (hd : g.DerivedFrom h fileSize) : g.CountsRecords fileSize where
  end_le hle := by
    rw [hd.frameCount_eq]
    exact (countFrames_bounds hd.record_pos hle).1
  lt_next hle := by
    rw [hd.frameCount_eq]
    exact (countFrames_bounds hd.record_pos hle).2
  eq_zero hlt := hd.frameCount_eq.trans (countFrames_of_lt _ hlt)

/-- In a longer file there are at least as many records. -/
theorem exists_derive_larger (hg : derive h fileSize = .ok g) {larger : Nat}
    (hle : fileSize ≤ larger) (hlarger : larger < wordLimit) :
    ∃ g', derive h larger = .ok g' ∧ g.frameCount ≤ g'.frameCount := by
  obtain ⟨g', hg'⟩ := exists_derive (recordHoldsFrame_of_derive hg) hlarger
  have hd := derivedFrom_of_derive hg
  have hd' := derivedFrom_of_derive hg'
  refine ⟨g', hg', ?_⟩
  rw [hd.frameCount_eq, hd'.frameCount_eq, hd.imageOffset_eq, hd'.imageOffset_eq,
    hd.recordBytes_eq, hd'.recordBytes_eq]
  exact countFrames_mono _ _ hle

end Geometry

namespace Dataset

variable {h : Header} {fileSize : Nat} {d : Dataset}

/-- The file set of a dataset is one run, whose records have the size that the header gives and
lie one behind the other inside the file. -/
theorem exists_run_of_derive (hg : Geometry.derive h fileSize = .ok d.geometry) :
    ∃ run, d.fileSet = .ok ⟨[run], 0, d.geometry.frameCount⟩ ∧ run.path = d.path ∧
      run.stride = .ok h.trueImageSize.toNat ∧
      ∀ frame < d.geometry.frameCount,
        run.recordOffset frame = .ok (d.geometry.imageOffset + frame * h.trueImageSize.toNat) ∧
        d.geometry.imageOffset + frame * h.trueImageSize.toNat + h.trueImageSize.toNat ≤
          fileSize := by
  have hd := Geometry.derivedFrom_of_derive hg
  have hsized := sized_wholeRun (d := d) (Geometry.fits_of_derive hg)
  refine ⟨d.wholeRun, d.fileSet_eq, rfl, hd.recordBytes_eq ▸ hsized.stride_eq, ?_⟩
  intro frame hf
  rw [← hd.recordBytes_eq]
  exact ⟨hsized.recordOffset_eq (Nat.zero_le _) hf.le,
    end_le_of_lt_countFrames hd.record_pos (hd.frameCount_eq ▸ hf)⟩

end Dataset

namespace Geometry

/-- For every header and every size of a file, computing the layout has no fault. It succeeds
exactly when a record holds a frame, and then counts the whole records: more in no shorter file,
and each of them inside. -/
theorem layouts_count_the_whole_records (h : Header) {fileSize : Nat}
    (hsize : fileSize < wordLimit) :
    (derive h fileSize).Faultless ∧
    ((∃ g, derive h fileSize = .ok g) ↔ h.RecordHoldsFrame) ∧
    ∀ g, derive h fileSize = .ok g →
      g.frameBytes = h.width.toNat * h.height.toNat * (h.bitDepth.toNat / 8) ∧
      g.footerBytes + g.frameBytes = h.trueImageSize.toNat ∧
      g.recordBytes = h.trueImageSize.toNat ∧
      g.imageOffset = DetectorScan.imageOffset h.version ∧
      g.CountsRecords fileSize ∧
      (∀ larger, fileSize ≤ larger → larger < wordLimit →
        ∃ g', derive h larger = .ok g' ∧ g.frameCount ≤ g'.frameCount) ∧
      ∀ d : Dataset, d.geometry = g → ∃ run,
        d.fileSet = .ok ⟨[run], 0, g.frameCount⟩ ∧ run.path = d.path ∧
        run.stride = .ok h.trueImageSize.toNat ∧
        ∀ frame < g.frameCount,
          run.recordOffset frame = .ok (g.imageOffset + frame * h.trueImageSize.toNat) ∧
          g.imageOffset + frame * h.trueImageSize.toNat + h.trueImageSize.toNat ≤ fileSize := by
  refine ⟨faultless_derive h hsize, ⟨fun ⟨g, hg⟩ => recordHoldsFrame_of_derive hg,
    fun hh => exists_derive hh hsize⟩, fun g hg => ?_⟩
  have hd := derivedFrom_of_derive hg
  have hfits := fits_of_derive hg
  refine ⟨hd.frameBytes_eq_header (element_of_derive hg), ?_, hd.recordBytes_eq,
    hd.imageOffset_eq, hd.countsRecords, fun larger => exists_derive_larger hg, ?_⟩
  · rw [Nat.add_comm, hfits.record_sum, hd.recordBytes_eq]
  · rintro d rfl
    exact Dataset.exists_run_of_derive hg

/-- Behind the second record of this file there are five bytes of a third. -/
theorem two_records_of_six_bytes :
    1041 < wordLimit ∧ SmallRecording.header.RecordHoldsFrame ∧
      (derive SmallRecording.header 1041).Faultless ∧
      ∃ g, derive SmallRecording.header 1041 = .ok g ∧ g.CountsRecords 1041 ∧ g.frameCount = 2 ∧
        g.footerBytes + g.frameBytes = 6 ∧
        ∀ d : Dataset, d.geometry = g → ∃ run, d.fileSet = .ok ⟨[run], 0, 2⟩ ∧
          run.stride = .ok 6 ∧ run.recordOffset 1 = .ok 1030 := by
  have hsize : 1041 < wordLimit := by decide
  have hholds : SmallRecording.header.RecordHoldsFrame := ⟨by decide, by decide, by decide⟩
  obtain ⟨hfaultless, hiff, hall⟩ := layouts_count_the_whole_records SmallRecording.header hsize
  obtain ⟨g, hg⟩ := hiff.2 hholds
  obtain ⟨-, hsum, hrecord, hoffset, hcounts, -, hruns⟩ := hall g hg
  have hsix : g.recordBytes = 6 := hrecord
  have hstart : g.imageOffset = 1024 := hoffset
  have hend := hcounts.end_le (by omega)
  have hnext := hcounts.lt_next (by omega)
  rw [hsix, hstart] at hend hnext
  have htwo : g.frameCount = 2 := by omega
  refine ⟨hsize, hholds, hfaultless, g, hg, hcounts, htwo, hsum, fun d hd => ?_⟩
  obtain ⟨run, hset, -, hstride, hrecords⟩ := hruns d hd
  have hone := (hrecords 1 (by omega)).1
  rw [hstart] at hone
  exact ⟨run, htwo ▸ hset, hstride, hone⟩

end Geometry

end DetectorScan
