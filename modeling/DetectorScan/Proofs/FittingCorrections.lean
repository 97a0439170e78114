import DetectorScan.Proofs.FrameImages

/-!
# Corrections that fit

A frame is corrected where the dark frame and the gain map, as far as they are there, have its
shape. They are looked at in turn, each right before it is used: a refusal names the first that
does not fit, and takes back nothing. So the frame is then as it was, but where the gain map is
refused behind a dark frame that fits, which stays subtracted.
-/

namespace DetectorScan.CorrectionSet

def image (c : CorrectionSet) : CorrectionKind → Option (Grid Binary32)
  | .dark => c.dark
  | .gain => c.gain

variable {c : CorrectionSet} {frame g : Grid Binary32} {image : Option (Grid Binary32)}
  {shape : List Nat}

/-- A frame with a function of place and number on each of its cells. -/
def onCells (v : Nat → Binary32 → Binary32) (frame : Grid Binary32) : Grid Binary32 :=
  .tabulate frame.shape fun k => v k (frame.cells.getD k .zero)

theorem onCells_id (frame : Grid Binary32) : onCells (fun _ x => x) frame = frame :=
  (frame.eq_tabulate .zero).symm

/-! ### One image -/

theorem applyOne_of_shape_ne {kind : CorrectionKind} (f : Binary32 → Binary32 → Binary32)
    (h : frame.shape ≠ g.shape) :
    applyOne kind f (some g) frame = .error (.mismatch kind g.shape frame.shape) :=
  dif_neg h

theorem applyOne_of_fits (kind : CorrectionKind) (f : Binary32 → Binary32 → Binary32)
    (h : ∀ g, image = some g → g.shape = frame.shape) :
    applyOne kind f image frame = .ok (onCells (onCell f image) frame) := by
  have htable : applyOne kind f image (.tabulate frame.shape fun k => frame.cells.getD k .zero) =
      .ok (onCells (onCell f image) frame) := applyOne_tabulate f h _
  rwa [← frame.eq_tabulate] at htable

/-- An image that is there and has another shape is the only reason for a refusal. -/
theorem fits_or_misfits (image : Option (Grid Binary32)) (shape : List Nat) :
    (∀ g, image = some g → g.shape = shape) ∨ ∃ g, image = some g ∧ shape ≠ g.shape := by
  cases image with
  | none => exact .inl nofun
  | some g =>
    by_cases hshape : g.shape = shape
    · refine .inl ?_
      rintro _ ⟨⟩
      exact hshape
    · exact .inr ⟨g, rfl, Ne.symm hshape⟩

/-! ### Both images -/

theorem Matches.shape_of_image (hc : c.Matches shape) {kind : CorrectionKind}
    (himage : c.image kind = some g) : g.shape = shape := by
  cases kind with
  | dark => exact hc.dark g himage
  | gain => exact hc.gain g himage

theorem apply_of_matches (h : c.Matches frame.shape) :
    c.apply frame = (onCells c.corrected frame, .ok ()) := by
  have htable := apply_tabulate h fun k => frame.cells.getD k .zero
  rwa [← frame.eq_tabulate] at htable

/-- A dark frame that does not fit is refused before anything is done. -/
theorem apply_of_dark_misfits (hdark : c.dark = some g) (hne : frame.shape ≠ g.shape) :
    c.apply frame = (frame, .error (.mismatch .dark g.shape frame.shape)) := by
  rw [apply, hdark, applyOne_of_shape_ne _ hne]

/-- A gain map that does not fit is refused when the dark frame is already subtracted. -/
theorem apply_of_gain_misfits (hfits : ∀ d, c.dark = some d → d.shape = frame.shape)
    (hgain : c.gain = some g) (hne : frame.shape ≠ g.shape) :
    c.apply frame = (onCells (onCell (· - ·) c.dark) frame,
      .error (.mismatch .gain g.shape frame.shape)) := by
  have hshape : (onCells (onCell (· - ·) c.dark) frame).shape ≠ g.shape := hne
  rw [apply, applyOne_of_fits .dark _ hfits]
  simp only [hgain, applyOne_of_shape_ne _ hshape]
  rfl

theorem matches_or_misfits (c : CorrectionSet) (shape : List Nat) :
    c.Matches shape ∨ (∃ g, c.dark = some g ∧ shape ≠ g.shape) ∨
      (∀ d, c.dark = some d → d.shape = shape) ∧ ∃ g, c.gain = some g ∧ shape ≠ g.shape := by
  obtain hdark | hdark := fits_or_misfits c.dark shape
  · obtain hgain | hgain := fits_or_misfits c.gain shape
    · exact .inl ⟨hdark, hgain⟩
    · exact .inr (.inr ⟨hdark, hgain⟩)
  · exact .inr (.inl hdark)

/-- A frame is corrected, pixel by pixel, if all images that are there have its shape. Otherwise
the first that has not is refused: the frame stays as it was, unless there is a dark frame that
fits, which is then subtracted from every pixel. -/
theorem frames_are_corrected_where_all_images_fit (c : CorrectionSet) {height width : Nat}
    (hframe : frame.shape = [height, width]) :
    ((c.apply frame).2 = .ok () ↔ c.Matches [height, width]) ∧
    (c.Matches [height, width] → (c.apply frame).1 = .tabulate [height, width] fun k =>
      c.corrected k (frame.cells.getD k .zero)) ∧
    ∀ cause, (c.apply frame).2 = .error cause →
      (∃ kind g, c.image kind = some g ∧ g.shape ≠ [height, width] ∧
        cause = .mismatch kind g.shape [height, width]) ∧
      ((∀ dark, c.dark = some dark → dark.shape ≠ [height, width]) → (c.apply frame).1 = frame) ∧
      ∀ dark, c.dark = some dark → dark.shape = [height, width] →
        (c.apply frame).1 = .tabulate [height, width] fun k =>
          frame.cells.getD k .zero - dark.cells.getD k .zero := by
  rw [← hframe]
  obtain hmatches | ⟨g, hdark, hne⟩ | ⟨hfits, g, hgain, hne⟩ := c.matches_or_misfits frame.shape
  · rw [apply_of_matches hmatches]
    exact ⟨iff_of_true rfl hmatches, fun _ => rfl, nofun⟩
  · have hmisfit : ¬ c.Matches frame.shape := fun hmatches => hne (hmatches.dark g hdark).symm
    rw [apply_of_dark_misfits hdark hne]
    refine ⟨iff_of_false nofun hmisfit, fun h => absurd h hmisfit, ?_⟩
    rintro _ ⟨⟩
    refine ⟨⟨.dark, g, hdark, hne.symm, rfl⟩, fun _ => rfl, fun dark hsome hshape => ?_⟩
    obtain rfl : g = dark := Option.some.inj (hdark.symm.trans hsome)
    exact absurd hshape.symm hne
  · have hmisfit : ¬ c.Matches frame.shape := fun hmatches => hne (hmatches.gain g hgain).symm
    rw [apply_of_gain_misfits hfits hgain hne]
    refine ⟨iff_of_false nofun hmisfit, fun h => absurd h hmisfit, ?_⟩
    rintro _ ⟨⟩
    refine ⟨⟨.gain, g, hgain, hne.symm, rfl⟩, fun hother => ?_, fun dark hsome _ => ?_⟩
    · -- a dark frame that is there fits, so there is none
      have hnone : c.dark = none := by
        rw [Option.eq_none_iff_forall_ne_some]
        exact fun d hd => hother d hd (hfits d hd)
      rw [hnone]
      exact onCells_id frame
    · rw [hsome]
      rfl

def flat (shape : List Nat) : CorrectionSet :=
  ⟨some (.filled shape (.ofNat 1)), some (.filled shape (.ofNat 2))⟩

theorem matches_flat (shape : List Nat) : (flat shape).Matches shape := by
  refine ⟨?_, ?_⟩
  · rintro g ⟨⟩
    rfl
  · rintro g ⟨⟩
    rfl

/-- A dark frame for frames of two rows and columns, and a gain map of three axes. -/
def misfittingGain : CorrectionSet :=
  ⟨(flat [2, 2]).dark, (flat [1, 2, 2]).gain⟩

theorem frame_of_fours_is_corrected_or_darkened :
    (Grid.filled [2, 2] (Binary32.ofNat 4)).shape = [2, 2] ∧ (flat [2, 2]).Matches [2, 2] ∧
      (flat [2, 2]).apply (.filled [2, 2] (.ofNat 4)) = (.filled [2, 2] (.ofNat 6), .ok ()) ∧
      misfittingGain.apply (.filled [2, 2] (.ofNat 4)) =
        (.filled [2, 2] (.ofNat 3), .error (.mismatch .gain [1, 2, 2] [2, 2])) := by
  have hframe : (Grid.filled [2, 2] (Binary32.ofNat 4)).shape = [2, 2] := rfl
  have hmatches := matches_flat [2, 2]
  obtain ⟨hok, hcorrected, -⟩ := frames_are_corrected_where_all_images_fit (flat [2, 2]) hframe
  obtain ⟨-, -, hrefused⟩ := frames_are_corrected_where_all_images_fit misfittingGain hframe
  obtain ⟨-, -, hdarkened⟩ := hrefused (.mismatch .gain [1, 2, 2] [2, 2]) rfl
  refine ⟨hframe, hmatches, Prod.ext ((hcorrected hmatches).trans ?_) (hok.2 hmatches),
    Prod.ext ((hdarkened _ rfl rfl).trans ?_) rfl⟩
  · decide +kernel
  · decide +kernel

theorem refused_gain_map_does_not_leave_the_frame_as_it_was :
    ¬ ∀ cause, (misfittingGain.apply (.filled [2, 2] (.ofNat 4))).2 = .error cause →
      (misfittingGain.apply (.filled [2, 2] (.ofNat 4))).1 = .filled [2, 2] (.ofNat 4) := by
  intro hunchanged
  have hsame := hunchanged (.mismatch .gain [1, 2, 2] [2, 2]) rfl
  revert hsame
  decide +kernel

end DetectorScan.CorrectionSet
