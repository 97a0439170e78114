import DetectorScan.Proofs.FittingCorrections
import DetectorScan.Proofs.ImageFiles

/-!
# Corrections that were written

A dark frame and a gain map of the shape of a detector, written beside a recording, are
loaded from there again. Reading drops axes of length one, so the loaded images fit the
frames of the detector only where it has several rows and several columns; for a single
row or column they are refused.
-/

namespace DetectorScan

namespace CorrectionSet

def writeOne (c : CorrectionSet) (base : Path) (storage : Storage) (kind : CorrectionKind) :
    Storage × Except ReadError Unit :=
  match c.image kind with
  | none => (storage, .ok ())
  | some g => Mrc.write storage (sibling base kind.suffix) g

/-- Writes images one after the other, up to the first that cannot be written. -/
def writeAll (c : CorrectionSet) (base : Path) :
    List CorrectionKind → Storage → Storage × Except ReadError Unit
  | [], storage => (storage, .ok ())
  | kind :: kinds, storage =>
    match c.writeOne base storage kind with
    | (stored, .ok ()) => writeAll c base kinds stored
    | (stored, .error cause) => (stored, .error cause)

/-- Beside a recording there is the written image of a kind, or nothing if there is no
such image. -/
def KeptAt (c : CorrectionSet) (files : FileView) (base : Path) (kind : CorrectionKind) : Prop :=
  match c.image kind with
  | none => files.holds (sibling base kind.suffix) = false
  | some g => Mrc.HeldAt files (sibling base kind.suffix) g

variable {c : CorrectionSet} {base : Path}

/-! ### Writing -/

theorem suffix_apart {kind other : CorrectionKind} (h : kind ≠ other) :
    Storage.Apart (sibling base kind.suffix) (sibling base other.suffix) := by
  have hslash : ∀ k : CorrectionKind, '/' ∉ k.suffix.toList := by
    intro k
    cases k <;> decide
  have hlength : ∀ k : CorrectionKind, k.suffix.toList.length = 9 := by
    intro k
    cases k <;> decide
  have hsuffix : kind.suffix ≠ other.suffix := by
    cases kind <;> cases other <;> first | contradiction | decide
  exact Storage.apart_append (hslash kind) (hslash other)
    ((hlength kind).trans (hlength other).symm) hsuffix

theorem keptAt_congr {files view : FileView} {kind : CorrectionKind}
    (hmap : ∀ content, view.map (sibling base kind.suffix) = .ok content
      ↔ files.map (sibling base kind.suffix) = .ok content)
    (hholds : view.holds (sibling base kind.suffix) = files.holds (sibling base kind.suffix)) :
    c.KeptAt view base kind ↔ c.KeptAt files base kind := by
  unfold KeptAt Mrc.HeldAt
  cases c.image kind with
  | none => simp only [hholds]
  | some g => simp only [hmap]

theorem keptAt_writeOne {storage stored : Storage} {kind : CorrectionKind}
    (h : c.writeOne base storage kind = (stored, .ok ())) (hpresent : (c.image kind).isSome) :
    c.KeptAt stored.view base kind := by
  obtain ⟨g, himage⟩ := Option.isSome_iff_exists.1 hpresent
  rw [writeOne, himage] at h
  rw [KeptAt, himage]
  exact Mrc.heldAt_of_write h

theorem KeptAt.writeOne {storage stored : Storage} {kind other : CorrectionKind}
    (h : c.KeptAt storage.view base other)
    (hwrite : c.writeOne base storage kind = (stored, .ok ())) :
    c.KeptAt stored.view base other := by
  cases himage : c.image kind with
  | none =>
    rw [CorrectionSet.writeOne, himage] at hwrite
    cases hwrite
    exact h
  | some g =>
    by_cases hkind : kind = other
    · subst hkind
      exact keptAt_writeOne hwrite (by rw [himage]; rfl)
    · rw [CorrectionSet.writeOne, himage] at hwrite
      obtain ⟨b, -, hwrite⟩ := Mrc.write_eq_ok_iff.1 hwrite
      have hapart : Storage.Apart (sibling base kind.suffix) (sibling base other.suffix) :=
        suffix_apart hkind
      exact (keptAt_congr (fun _ => Storage.map_write_of_apart hwrite hapart)
        (Storage.holds_write_of_apart hwrite hapart)).2 h

theorem keptAt_writeAll {kinds : List CorrectionKind} {storage stored : Storage}
    (h : c.writeAll base kinds storage = (stored, .ok ())) {kind : CorrectionKind}
    (hkind : (kind ∈ kinds ∧ (c.image kind).isSome) ∨ c.KeptAt storage.view base kind) :
    c.KeptAt stored.view base kind := by
  -- Each image is still to be written or already there, and no write takes it away again.
  induction kinds generalizing storage with
  | nil =>
    cases h
    rcases hkind with ⟨hmem, -⟩ | hkept
    · contradiction
    · exact hkept
  | cons first kinds ih =>
    rw [writeAll] at h
    split at h
    case h_2 => cases h
    next written hfirst =>
    refine ih h ?_
    rcases hkind with ⟨hmem, hpresent⟩ | hkept
    · rcases List.mem_cons.1 hmem with rfl | hmem
      · exact .inr (keptAt_writeOne hfirst hpresent)
      · exact .inl ⟨hmem, hpresent⟩
    · exact .inr (hkept.writeOne hfirst)

/-! ### Loading -/

def squeezed (c : CorrectionSet) : CorrectionSet :=
  ⟨c.dark.map Grid.squeezed, c.gain.map Grid.squeezed⟩

theorem loadOne_of_keptAt {files : FileView} {kind : CorrectionKind}
    (h : c.KeptAt files base kind) (hshape : ∀ g, c.image kind = some g → Mrc.Storable g.shape) :
    loadOne Mrc.read files base kind = .ok ((c.image kind).map Grid.squeezed) := by
  rw [KeptAt] at h
  cases himage : c.image kind with
  | none =>
    rw [himage] at h
    rw [loadOne, if_neg (ne_true_of_eq_false h)]
    rfl
  | some g =>
    rw [himage] at h
    have hholds : files.holds (sibling base kind.suffix) = true := by
      obtain ⟨b, -, hmap⟩ := h
      exact FileView.holds_iff.2 ⟨_, (FileView.map_eq_ok.1 hmap).1⟩
    rw [loadOne, if_pos hholds, h.read (hshape g himage)]
    rfl

theorem load_of_keptAt {files : FileView} (h : ∀ kind, c.KeptAt files base kind)
    (hshape : ∀ kind g, c.image kind = some g → Mrc.Storable g.shape) :
    load Mrc.read files base = .ok c.squeezed := by
  rw [load, loadOne_of_keptAt (h .dark) (hshape .dark), ok_bind,
    loadOne_of_keptAt (h .gain) (hshape .gain)]
  rfl

theorem load_of_writeAll {shape : List Nat} (hc : c.Matches shape) (hshape : Mrc.Storable shape)
    {kinds : List CorrectionKind} (hkinds : ∀ kind, kind ∈ kinds) {storage stored : Storage}
    (habsent : ∀ kind, c.image kind = none →
      storage.view.holds (sibling base kind.suffix) = false)
    (hstored : c.writeAll base kinds storage = (stored, .ok ())) :
    load Mrc.read stored.view base = .ok c.squeezed := by
  refine load_of_keptAt (fun kind => ?_) fun kind g himage => ?_
  · refine keptAt_writeAll hstored ?_
    cases himage : c.image kind with
    | none =>
      refine .inr ?_
      rw [KeptAt, himage]
      exact habsent kind himage
    | some g => exact .inl ⟨hkinds kind, rfl⟩
  · rwa [hc.shape_of_image himage]

/-! ### Applying -/

theorem squeezed_eq_self {shape : List Nat} (hc : c.Matches shape)
    (h : c.isEmpty = true ∨ 1 ∉ shape) : c.squeezed = c := by
  obtain ⟨dark, gain⟩ := c
  rcases h with hempty | hone
  · simp only [isEmpty, Bool.and_eq_true, Option.isNone_iff_eq_none] at hempty
    obtain ⟨rfl, rfl⟩ := hempty
    rfl
  · have himage : ∀ image : Option (Grid Binary32), (∀ g, image = some g → g.shape = shape) →
        image.map Grid.squeezed = image := by
      intro image hshape
      cases image with
      | none => rfl
      | some g => exact congrArg some (Grid.squeezed_eq_self (hshape g rfl ▸ hone))
    rw [squeezed, himage dark hc.dark, himage gain hc.gain]

/-- An image that has lost an axis is refused, and the frame stays as it was. -/
theorem apply_squeezed_of_one_mem {shape : List Nat} {frame : Grid Binary32}
    (hc : c.Matches shape) (hone : 1 ∈ shape) (hframe : frame.shape = shape)
    (hpresent : c.isEmpty = false) :
    ∃ kind, (c.image kind).isSome ∧ c.squeezed.apply frame =
      (frame, .error (.mismatch kind (shape.filter (· ≠ 1)) shape)) := by
  have hlost : frame.shape ≠ shape.filter (· ≠ 1) := by
    rw [hframe]
    intro heq
    have hself := List.filter_eq_self.1 heq.symm 1 hone
    contradiction
  have hsqueezed : ∀ kind g, c.image kind = some g →
      g.squeezed.shape = shape.filter (· ≠ 1) := by
    intro kind g himage
    rw [g.shape_squeezed, hc.shape_of_image himage]
  obtain ⟨dark, gain⟩ := c
  cases dark with
  | some g =>
    have hshape := hsqueezed .dark g rfl
    refine ⟨.dark, rfl, ?_⟩
    rw [apply_of_dark_misfits rfl (hshape ▸ hlost), hshape, hframe]
  | none =>
    cases gain with
    | some g =>
      have hshape := hsqueezed .gain g rfl
      refine ⟨.gain, rfl, ?_⟩
      have hnone : ∀ d, (CorrectionSet.mk none (some g)).squeezed.dark = some d →
          d.shape = frame.shape := nofun
      rw [apply_of_gain_misfits hnone rfl (hshape ▸ hlost), hshape, hframe]
      exact Prod.ext (onCells_id frame) rfl
    | none => contradiction

/-! ### Writing, loading and applying -/

theorem storable_plane {height width : Nat} (hheight : 0 < height) (hwidth : 0 < width)
    (hheight' : height < 2 ^ 31) (hwidth' : width < 2 ^ 31) : Mrc.Storable [height, width] := by
  have hproduct : height * width ≤ (2 ^ 31 - 1) * (2 ^ 31 - 1) :=
    Nat.mul_le_mul (by omega) (by omega)
  have hmem : ∀ d ∈ [height, width], d = height ∨ d = width := by
    intro d hd
    simpa using hd
  refine ⟨fun d hd => ?_, fun d hd => ?_, ?_⟩
  · have hd := hmem d hd
    omega
  · have hd := hmem d hd
    omega
  · rw [FileDescriptor.volume_plane]
    unfold Mrc.headerSize wordLimit
    omega

/-- Images of the shape of a detector, written beside a recording in any order, are loaded
from there, each in its place. They correct every frame of the detector, pixel by pixel,
if it has neither a single row nor a single column; otherwise the first of them is refused
and the frame stays as it was. -/
theorem written_corrections_correct_frames {height width : Nat} (hheight : 0 < height)
    (hwidth : 0 < width) (hheight' : height < 2 ^ 31) (hwidth' : width < 2 ^ 31)
    (hc : c.Matches [height, width]) {kinds : List CorrectionKind} (hkinds : ∀ kind, kind ∈ kinds)
    {storage stored : Storage}
    (habsent : ∀ kind, c.image kind = none →
      storage.view.holds (sibling base kind.suffix) = false)
    (hstored : c.writeAll base kinds storage = (stored, .ok ())) :
    ∃ loaded, load Mrc.read stored.view base = .ok loaded
      ∧ loaded.hasDark = c.hasDark ∧ loaded.hasGain = c.hasGain
      ∧ ∀ frame : Grid Binary32, frame.shape = [height, width] →
        if c.isEmpty ∨ (height ≠ 1 ∧ width ≠ 1) then
          loaded.apply frame = (.tabulate [height, width] fun k =>
            c.corrected k (frame.cells.getD k .zero), .ok ())
        else ∃ kind, (c.image kind).isSome ∧ loaded.apply frame = (frame,
          .error (.mismatch kind ([height, width].filter (· ≠ 1)) [height, width])) := by
  have hplane := storable_plane hheight hwidth hheight' hwidth'
  have hload := load_of_writeAll hc hplane hkinds habsent hstored
  refine ⟨c.squeezed, hload, Option.isSome_map, Option.isSome_map, ?_⟩
  intro frame hframe
  split
  next hfits =>
    have hself : c.squeezed = c := by
      refine squeezed_eq_self hc (hfits.imp_right fun hne hone => ?_)
      simp only [List.mem_cons, List.not_mem_nil, or_false] at hone
      omega
    have htable : frame = .tabulate [height, width] fun k => frame.cells.getD k .zero :=
      hframe ▸ frame.eq_tabulate .zero
    have happly := apply_tabulate hc fun k => frame.cells.getD k .zero
    rw [← htable] at happly
    rw [hself, happly]
  next hfits =>
    rw [not_or, Bool.not_eq_true] at hfits
    refine apply_squeezed_of_one_mem hc ?_ hframe hfits.1
    have hone : 1 = height ∨ 1 = width := by omega
    simpa using hone

theorem image_flat (shape : List Nat) (kind : CorrectionKind) :
    (flat shape).image kind ≠ none := by
  cases kind <;> nofun

theorem written_corrections_of_two_rows :
    0 < 2 ∧ 0 < 3 ∧ 2 < 2 ^ 31 ∧ 3 < 2 ^ 31 ∧ (flat [2, 3]).Matches [2, 3] ∧
      (∀ kind, kind ∈ [CorrectionKind.gain, .dark]) ∧
      (∀ kind, (flat [2, 3]).image kind = none →
        Storage.empty.view.holds (sibling ⟨"scan.seq"⟩ kind.suffix) = false) ∧
      ∃ stored loaded,
        (flat [2, 3]).writeAll ⟨"scan.seq"⟩ [.gain, .dark] .empty = (stored, .ok ()) ∧
        load Mrc.read stored.view ⟨"scan.seq"⟩ = .ok loaded ∧
        loaded.hasDark = true ∧ loaded.hasGain = true ∧
        loaded.apply (.filled [2, 3] (.ofNat 4)) = (.filled [2, 3] (.ofNat 6), .ok ()) := by
  have hkinds : ∀ kind, kind ∈ [CorrectionKind.gain, .dark] := by
    intro kind
    cases kind <;> decide
  have habsent : ∀ kind, (flat [2, 3]).image kind = none →
      Storage.empty.view.holds (sibling ⟨"scan.seq"⟩ kind.suffix) = false :=
    fun kind hnone => absurd hnone (image_flat [2, 3] kind)
  refine ⟨by decide, by decide, by decide, by decide, matches_flat _, hkinds, habsent, ?_⟩
  have hstored : (flat [2, 3]).writeAll ⟨"scan.seq"⟩ [.gain, .dark] .empty = (_, .ok ()) := rfl
  obtain ⟨loaded, hload, hdark, hgain, happly⟩ := written_corrections_correct_frames (by decide)
    (by decide) (by decide) (by decide) (matches_flat [2, 3]) hkinds habsent hstored
  have hframe := happly (.filled [2, 3] (.ofNat 4)) rfl
  rw [if_pos (.inr (by decide))] at hframe
  have hpixels : Grid.tabulate [2, 3] (fun k => (flat [2, 3]).corrected k
      ((Grid.filled [2, 3] (Binary32.ofNat 4)).cells.getD k .zero))
        = .filled [2, 3] (.ofNat 6) := by
    decide +kernel
  rw [hpixels] at hframe
  exact ⟨_, loaded, hstored, hload, hdark, hgain, hframe⟩

theorem written_corrections_of_one_row_are_refused :
    ∃ stored loaded,
      (flat [1, 3]).writeAll ⟨"scan.seq"⟩ [.dark, .gain] .empty = (stored, .ok ()) ∧
      load Mrc.read stored.view ⟨"scan.seq"⟩ = .ok loaded ∧
      loaded.apply (.filled [1, 3] (.ofNat 4)) =
        (.filled [1, 3] (.ofNat 4), .error (.mismatch .dark [3] [1, 3])) := by
  have hkinds : ∀ kind, kind ∈ [CorrectionKind.dark, .gain] := by
    intro kind
    cases kind <;> decide
  have habsent : ∀ kind, (flat [1, 3]).image kind = none →
      Storage.empty.view.holds (sibling ⟨"scan.seq"⟩ kind.suffix) = false :=
    fun kind hnone => absurd hnone (image_flat [1, 3] kind)
  have hplane : Mrc.Storable [1, 3] :=
    storable_plane (by decide) (by decide) (by decide) (by decide)
  have hstored : (flat [1, 3]).writeAll ⟨"scan.seq"⟩ [.dark, .gain] .empty = (_, .ok ()) := rfl
  exact ⟨_, _, hstored, load_of_writeAll (matches_flat [1, 3]) hplane hkinds habsent hstored, rfl⟩

end CorrectionSet

end DetectorScan
