import DetectorScan.Proofs.ExactNumbers
import DetectorScan.Proofs.JobRun
import Mathlib.Algebra.Order.BigOperators.Group.List
import Mathlib.Tactic.IntervalCases

/-!
# The sum of all frames

Where pixels and corrections are integers of at most 24 bits, and so are their sums, the
total of a job is the sum over all frames: neither the tiles of a partition nor the
partitions of the dataset make a difference, and no more do the workers.
-/

namespace DetectorScan

variable {ι : Type}

/-! ### Sums of integers -/

theorem natAbs_sum_le (c : ι → Int) (xs : List ι) :
    (xs.map c).sum.natAbs ≤ (xs.map fun x => (c x).natAbs).sum := by
  induction xs with
  | nil => exact Nat.le_refl 0
  | cons x xs ih =>
    simp only [List.map_cons, List.sum_cons]
    have := Int.natAbs_add_le (c x) (xs.map c).sum
    omega

theorem Contiguous.sum_frames {M : Type} [AddMonoid M] {start stop : Nat} {spans : List Span}
    (h : Contiguous start spans stop) (c : Nat → M) :
    (spans.map fun s => (s.frames.map c).sum).sum = ((Span.mk start stop).frames.map c).sum := by
  rw [← h.flatMap_frames, List.map_flatMap, List.flatMap, List.sum_flatten, List.map_map]
  rfl

theorem Contiguous.sum_frames_le {start stop : Nat} {spans : List Span}
    (h : Contiguous start spans stop) (c : Nat → Nat) {s : Span} (hs : s ∈ spans) :
    (s.frames.map c).sum ≤ ((Span.mk start stop).frames.map c).sum := by
  rw [← h.sum_frames]
  exact List.single_le_sum (fun _ _ => Nat.zero_le _) _ (List.mem_map_of_mem hs)

/-- Integers of at most 24 bits are added exactly. -/
theorem Binary32.sumOver_eq_ofInt {f : ι → Binary32} {c : ι → Int} {xs : List ι}
    (hf : ∀ x ∈ xs, (f x).value? = some (c x : ℚ))
    (hsum : (xs.map fun x => (c x).natAbs).sum ≤ 2 ^ 24) :
    sumOver f xs = ofInt (xs.map c).sum := by
  have hfold : ∀ start : Int, start.natAbs + (xs.map fun x => (c x).natAbs).sum ≤ 2 ^ 24 →
      xs.foldl (fun total x => total + f x) (ofInt start) = ofInt (start + (xs.map c).sum) := by
    -- no total on the way is larger than what the bound leaves for it
    clear hsum
    induction xs with
    | nil =>
      intro start _
      simp
    | cons x xs ih =>
      intro start hbound
      simp only [List.map_cons, List.sum_cons] at hbound ⊢
      have hnext := Int.natAbs_add_le start (c x)
      rw [List.foldl_cons, ofInt_add (by omega) (hf x (List.mem_cons_self ..)),
        ih (fun y hy => hf y (List.mem_cons_of_mem _ hy)) _ (by omega), Int.add_assoc]
  rw [sumOver, zero_eq_ofInt, hfold 0 (by simpa using hsum), Int.zero_add]

theorem Binary32.sumOver_contiguous {start stop : Nat} {spans : List Span}
    (h : Contiguous start spans stop) {f : Span → Binary32} {c : Nat → Int}
    (hf : ∀ s ∈ spans, f s = ofInt (s.frames.map c).sum)
    (hsum : ((Span.mk start stop).frames.map fun i => (c i).natAbs).sum ≤ 2 ^ 24) :
    sumOver f spans = ofInt ((Span.mk start stop).frames.map c).sum := by
  have hle : ∀ s ∈ spans, (s.frames.map c).sum.natAbs ≤
      (s.frames.map fun i => (c i).natAbs).sum := fun s _ => natAbs_sum_le c s.frames
  have hvalue : ∀ s ∈ spans, (f s).value? = some ((s.frames.map c).sum : ℚ) := by
    intro s hs
    rw [hf s hs]
    exact value?_ofInt ((hle s hs).trans ((h.sum_frames_le _ hs).trans hsum))
  rw [← h.sum_frames] at hsum ⊢
  exact sumOver_eq_ofInt hvalue ((List.sum_le_sum hle).trans hsum)

/-! ### Corrections by integers -/

namespace CorrectionSet

/-- An image of a shape, if there is one, has these integers as its cells. -/
def HoldsIntegers (image : Option (Grid Binary32)) (height width : Nat)
    (v : Nat → Nat → Int) : Prop :=
  ∀ g, image = some g → g.shape = [height, width] ∧
    ∀ y < height, ∀ x < width, ∃ cell, g.cells[y * width + x]? = some cell ∧
      cell.value? = some (v y x : ℚ)

def onInteger (c : CorrectionSet) (dark gain v : Int) : Int :=
  let difference := if c.hasDark then v - dark else v
  if c.hasGain then difference * gain else difference

variable {c : CorrectionSet} {height width : Nat} {v : Nat → Nat → Int}

theorem HoldsIntegers.value?_getD {image : Option (Grid Binary32)}
    (h : HoldsIntegers image height width v) {y x : Nat} (hy : y < height) (hx : x < width)
    {g : Grid Binary32} (hg : image = some g) :
    (g.cells.getD (y * width + x) .zero).value? = some (v y x : ℚ) := by
  obtain ⟨cell, hcell, hvalue⟩ := (h g hg).2 y hy x hx
  rw [List.getD_eq_getElem?_getD, hcell]
  exact hvalue

theorem value?_corrected {k : Nat} {pixel : Binary32} {dark gain i : Int}
    (hpixel : pixel.value? = some (i : ℚ))
    (hdark : ∀ g, c.dark = some g → (g.cells.getD k .zero).value? = some (dark : ℚ))
    (hgain : ∀ g, c.gain = some g → (g.cells.getD k .zero).value? = some (gain : ℚ))
    (hdifference : c.hasDark = true → (i - dark).natAbs ≤ 2 ^ 24)
    (hresult : (c.onInteger dark gain i).natAbs ≤ 2 ^ 24) :
    (c.corrected k pixel).value? = some (c.onInteger dark gain i : ℚ) := by
  obtain ⟨darkImage, gainImage⟩ := c
  have hsub : (onCell (· - ·) darkImage k pixel).value? =
      some ((if darkImage.isSome then i - dark else i : Int) : ℚ) := by
    cases darkImage with
    | none => exact hpixel
    | some g => exact Binary32.value?_sub hpixel (hdark g rfl) (hdifference rfl)
  cases gainImage with
  | none => exact hsub
  | some g => exact Binary32.value?_mul hsub (hgain g rfl) hresult

end CorrectionSet

/-! ### The sum of all frames -/

/-- The pixel of a frame in a row and a column, as it is stored in a file. -/
def Geometry.pixelIn (g : Geometry) (content : FileContent) (frame y x : Nat) : Nat :=
  let offset := g.imageOffset + frame * g.recordBytes + (y * g.width + x) * g.element.size
  Bytes.value ((content.toBytes.drop offset).take g.element.size)

namespace Dataset

variable {d : Dataset} {content : FileContent} {applyCorrections : Bool}
  {dark gain : Nat → Nat → Int}

/-- What a frame adds to the total in a row and a column. -/
def countedAt (d : Dataset) (applyCorrections : Bool) (content : FileContent)
    (dark gain : Nat → Nat → Int) (y x frame : Nat) : Int :=
  (d.usedCorrections applyCorrections).onInteger (dark y x) (gain y x)
    (d.geometry.pixelIn content frame y x)

/-- The corrections hold integers, and no number that a job comes to has more than
24 bits. -/
structure Exact (d : Dataset) (applyCorrections : Bool) (content : FileContent)
    (dark gain : Nat → Nat → Int) : Prop where
  dark_integer : CorrectionSet.HoldsIntegers (d.usedCorrections applyCorrections).dark
    d.geometry.height d.geometry.width dark
  gain_integer : CorrectionSet.HoldsIntegers (d.usedCorrections applyCorrections).gain
    d.geometry.height d.geometry.width gain
  pixel_le : ∀ frame < d.geometry.frameCount, ∀ y < d.geometry.height,
    ∀ x < d.geometry.width, d.geometry.pixelIn content frame y x ≤ 2 ^ 24
  difference_le : (d.usedCorrections applyCorrections).hasDark = true →
    ∀ frame < d.geometry.frameCount, ∀ y < d.geometry.height, ∀ x < d.geometry.width,
      ((d.geometry.pixelIn content frame y x : Int) - dark y x).natAbs ≤ 2 ^ 24
  sum_le : ∀ y < d.geometry.height, ∀ x < d.geometry.width,
    ((List.range d.geometry.frameCount).map fun frame =>
      (d.countedAt applyCorrections content dark gain y x frame).natAbs).sum ≤ 2 ^ 24

theorem Exact.matches (h : d.Exact applyCorrections content dark gain) :
    (d.usedCorrections applyCorrections).Matches [d.geometry.height, d.geometry.width] :=
  ⟨fun g hg => (h.dark_integer g hg).1, fun g hg => (h.gain_integer g hg).1⟩

theorem Exact.configured (h : d.Exact applyCorrections content dark gain) (workers : Nat)
    (override : Option Nat) :
    (d.configured workers override).Exact applyCorrections content dark gain :=
  ⟨h.dark_integer, h.gain_integer, h.pixel_le, h.difference_le, h.sum_le⟩

theorem pixel_wholeRun (h : d.geometry.Fits content.size) {y x : Nat}
    (hy : y < d.geometry.height) (hx : x < d.geometry.width) (frame : Nat) :
    d.wholeRun.pixel d.geometry.sizes content frame (y * d.geometry.width + x) =
      d.geometry.pixelIn content frame y x := by
  have hcell : (y * d.geometry.width + x + 1) * d.geometry.element.size ≤
      d.geometry.height * d.geometry.width * d.geometry.element.size :=
    Nat.mul_le_mul_right _ (FileDescriptor.cell_lt hy hx)
  rw [Nat.add_mul, Nat.one_mul, ← h.frameBytes_eq] at hcell
  simp only [FileDescriptor.pixel, FileDescriptor.stored, FileDescriptor.recordStart, wholeRun,
    Geometry.sizes, Geometry.pixelIn, List.drop_take, List.drop_drop, List.take_take,
    Nat.sub_zero, Nat.add_zero]
  rw [Nat.min_eq_left (by omega)]

theorem value?_countedPixel (h : d.geometry.Fits content.size)
    (hexact : d.Exact applyCorrections content dark gain) {y x frame : Nat}
    (hy : y < d.geometry.height) (hx : x < d.geometry.width)
    (hframe : frame < d.geometry.frameCount) :
    (d.countedPixel applyCorrections content (y * d.geometry.width + x) frame).value? =
      some (d.countedAt applyCorrections content dark gain y x frame : ℚ) := by
  have hpixel := hexact.pixel_le frame hframe y hy x hx
  have hbound : (d.countedAt applyCorrections content dark gain y x frame).natAbs ≤ 2 ^ 24 :=
    (List.single_le_sum (fun _ _ => Nat.zero_le _) _
      (List.mem_map_of_mem (List.mem_range.2 hframe))).trans (hexact.sum_le y hy x hx)
  rw [countedPixel, pixel_wholeRun h hy hx]
  exact CorrectionSet.value?_corrected (Binary32.value?_ofNat hpixel)
    (fun g hg => hexact.dark_integer.value?_getD hy hx hg)
    (fun g hg => hexact.gain_integer.value?_getD hy hx hg)
    (fun hdark => hexact.difference_le hdark frame hframe y hy x hx) hbound

theorem sumOfTiles_eq (h : d.geometry.Fits content.size)
    (hexact : d.Exact applyCorrections content dark gain) {y x : Nat}
    (hy : y < d.geometry.height) (hx : x < d.geometry.width) (budget : Nat) {s : Span}
    (hle : s.start ≤ s.stop) (hs : s.stop ≤ d.geometry.frameCount) :
    d.sumOfTiles applyCorrections content budget (y * d.geometry.width + x) s =
      .ofInt (s.frames.map (d.countedAt applyCorrections content dark gain y x)).sum := by
  have hcuts := contiguous_cuts (framesPerTile_pos budget d.geometry.frameBytes) hle
  have hinside : Contiguous 0 [⟨0, s.start⟩, s, ⟨s.stop, d.geometry.frameCount⟩]
      d.geometry.frameCount := ⟨rfl, Nat.zero_le _, rfl, hle, rfl, hs, rfl⟩
  have hsum : (s.frames.map fun frame =>
      (d.countedAt applyCorrections content dark gain y x frame).natAbs).sum ≤ 2 ^ 24 := by
    refine (hinside.sum_frames_le _ (by simp)).trans ?_
    rw [Span.frames_zero]
    exact hexact.sum_le y hy x hx
  refine Binary32.sumOver_contiguous hcuts (fun t ht => ?_) hsum
  refine Binary32.sumOver_eq_ofInt (fun frame hframe => ?_) ((hcuts.sum_frames_le _ ht).trans hsum)
  have hstop := (hcuts.bounds ht).2.2.trans hs
  exact value?_countedPixel h hexact hy hx ((Span.mem_frames.1 hframe).2.trans_le hstop)

/-- The total of all frames at a pixel, however they are cut into partitions and tiles. -/
theorem sumOfPartitions_eq (h : d.geometry.Fits content.size)
    (hexact : d.Exact applyCorrections content dark gain) {y x : Nat}
    (hy : y < d.geometry.height) (hx : x < d.geometry.width) (budget : Nat) :
    Binary32.sumOver
        (d.sumOfTiles applyCorrections content budget (y * d.geometry.width + x))
        d.plannedSpans =
      .ofInt ((List.range d.geometry.frameCount).map
        (d.countedAt applyCorrections content dark gain y x)).sum := by
  have hplan := d.contiguous_plannedSpans
  rw [← Span.frames_zero]
  refine Binary32.sumOver_contiguous hplan (fun s hs => ?_) ?_
  · obtain ⟨_, hle, hstop⟩ := hplan.bounds hs
    exact sumOfTiles_eq h hexact hy hx budget hle hstop
  · rw [Span.frames_zero]
    exact hexact.sum_le y hy x hx

def sumImage (d : Dataset) (applyCorrections : Bool) (content : FileContent)
    (dark gain : Nat → Nat → Int) : Grid Binary32 :=
  .tabulate [d.geometry.height, d.geometry.width] fun k =>
    .ofInt ((List.range d.geometry.frameCount).map (d.countedAt applyCorrections content dark gain
      (k / d.geometry.width) (k % d.geometry.width))).sum

theorem jobOutcome_eq_sumImage (h : d.geometry.Fits content.size)
    (hexact : d.Exact applyCorrections content dark gain) (budget : Nat) :
    d.jobOutcome applyCorrections content budget =
      .ok (d.sumImage applyCorrections content dark gain) := by
  rw [jobOutcome, if_pos (wholeIn_eq h).ge, sumImage]
  congr 1
  refine Grid.tabulate_congr fun k hk => ?_
  rw [FileDescriptor.volume_plane] at hk
  have hwidth : 0 < d.geometry.width := Nat.pos_of_lt_mul_left hk
  have hy : k / d.geometry.width < d.geometry.height := Nat.div_lt_of_lt_mul (by
    rwa [Nat.mul_comm])
  have hx : k % d.geometry.width < d.geometry.width := Nat.mod_lt _ hwidth
  have hsum := sumOfPartitions_eq h hexact hy hx budget
  rwa [Nat.div_add_mod'] at hsum

theorem getElem?_sumImage {y x : Nat} (hy : y < d.geometry.height) (hx : x < d.geometry.width) :
    (d.sumImage applyCorrections content dark gain).cells[y * d.geometry.width + x]? =
      some (.ofInt ((List.range d.geometry.frameCount).map
        (d.countedAt applyCorrections content dark gain y x)).sum) := by
  have hcell : y * d.geometry.width + x < volume [d.geometry.height, d.geometry.width] := by
    rw [FileDescriptor.volume_plane]
    exact FileDescriptor.cell_lt hy hx
  have hdiv : (y * d.geometry.width + x) / d.geometry.width = y := by
    rw [Nat.mul_comm, Nat.mul_add_div (by omega), Nat.div_eq_of_lt hx, Nat.add_zero]
  have hmod : (y * d.geometry.width + x) % d.geometry.width = x := by
    rw [Nat.mul_add_mod_of_lt hx]
  rw [sumImage, Grid.getElem?_tabulate _ hcell, hdiv, hmod]

theorem Exact.value?_sum (h : d.Exact applyCorrections content dark gain) {y x : Nat}
    (hy : y < d.geometry.height) (hx : x < d.geometry.width) :
    (Binary32.ofInt ((List.range d.geometry.frameCount).map
      (d.countedAt applyCorrections content dark gain y x)).sum).value? =
        some (((List.range d.geometry.frameCount).map
          (d.countedAt applyCorrections content dark gain y x)).sum : ℚ) :=
  Binary32.value?_ofInt ((natAbs_sum_le _ _).trans (h.sum_le y hy x hx))

end Dataset

/-- A job gives one image, whose pixels are the sums over all frames of the corrected
pixels, however the frames are cut into partitions and tiles, whether one thread runs the tasks
or a pool, and in whatever order workers take their steps. There is a job where there can be
room for its partitions and its tasks. -/
theorem job_sums_every_frame_once {source : CorrectionSource} {files : FileView}
    {workers : Nat} {params : DatasetParams} {d : Dataset} {content : FileContent}
    (h : Dataset.load source files workers params = .ok d)
    (hmap : files.map params.path = .ok content) (haddressable : files.Addressable)
    (hpixels : 0 < d.geometry.height * d.geometry.width) (applyCorrections : Bool)
    {dark gain : Nat → Nat → Int} (hexact : d.Exact applyCorrections content dark gain) :
    ∃ total : Grid Binary32, total.shape = [d.geometry.height, d.geometry.width] ∧
      (∀ y < d.geometry.height, ∀ x < d.geometry.width,
        ∃ cell, total.cells[y * d.geometry.width + x]? = some cell ∧
          cell.value? = some (((List.range d.geometry.frameCount).map
            (d.countedAt applyCorrections content dark gain y x)).sum : ℚ)) ∧
      ∀ (threads : Nat) (override : Option Nat),
        (d.configured threads override).HasJob applyCorrections fun job tasks =>
          ∀ options : RunOptions, options.context.isCancelled = false →
            job.Yields tasks d.geometry.frameCount files options (.ok total) := by
  obtain ⟨found, hfound, hopened⟩ := Dataset.opened_of_load h
  obtain rfl : content = found := by
    cases (FileView.map_eq_ok.1 hmap).1.symm.trans hfound
    rfl
  have hsize := haddressable _ _ hmap
  refine ⟨d.sumImage applyCorrections content dark gain, rfl, fun y hy x hx => ?_,
    fun threads override => ?_⟩
  · exact ⟨_, Dataset.getElem?_sumImage hy hx, hexact.value?_sum hy hx⟩
  have hother := hopened.configured threads override
  have hnumbers := hexact.configured threads override
  rw [← hother.path_eq] at hmap
  refine hother.hasJob fun htasks options hflag => ?_
  have hyields := Dataset.yields_jobOn hother.fits hpixels hnumbers.matches hmap hsize hflag htasks
  rw [Dataset.jobOutcome_eq_sumImage hother.fits hnumbers] at hyields
  exact hyields

namespace SmallRecording

def darkAt (y x : Nat) : Int :=
  if y = 0 ∧ x = 0 then 1 else 0

theorem holdsIntegers_dark : CorrectionSet.HoldsIntegers (some dark) 2 2 darkAt := by
  intro g hg
  cases hg
  refine ⟨rfl, fun y hy x hx => ?_⟩
  have hone : (Binary32.ofNat 1).value? = some ((1 : Int) : ℚ) :=
    Binary32.value?_ofNat (by decide)
  have hzero : Binary32.zero.value? = some ((0 : Int) : ℚ) := by
    rw [Binary32.zero_eq_ofInt]
    exact Binary32.value?_ofInt (by decide)
  interval_cases y <;> interval_cases x
  · exact ⟨_, rfl, hone⟩
  · exact ⟨_, rfl, hzero⟩
  · exact ⟨_, rfl, hzero⟩
  · exact ⟨_, rfl, hzero⟩

theorem exact : dataset.Exact true content darkAt fun _ _ => 1 where
  dark_integer := holdsIntegers_dark
  gain_integer := nofun
  pixel_le := by decide +kernel
  difference_le := by decide +kernel
  sum_le := by decide +kernel

end SmallRecording

theorem small_recording_is_summed_in_thirds :
    Dataset.load Mrc.read SmallRecording.files 1 ⟨SmallRecording.path, [2]⟩ =
        .ok SmallRecording.dataset ∧
      SmallRecording.files.map SmallRecording.path = .ok SmallRecording.content ∧
      SmallRecording.files.Addressable ∧
      0 < SmallRecording.dataset.geometry.height * SmallRecording.dataset.geometry.width ∧
      SmallRecording.dataset.Exact true SmallRecording.content SmallRecording.darkAt
        (fun _ _ => 1) ∧
      ∃ total job cell,
        SumJob.ofDataset (SmallRecording.dataset.configured 1 (some 3)) true = .ok job ∧
        job.run SmallRecording.files .inline { parallelism := 4 } = .ok total ∧
        (∃ moves, job.runBy SmallRecording.files {} moves = some (.ok total)) ∧
        total.shape = [2, 2] ∧ total.cells[0]? = some cell ∧ cell.value? = some 1 := by
  refine ⟨SmallRecording.load, SmallRecording.map_content, SmallRecording.addressable, by decide,
    SmallRecording.exact, ?_⟩
  obtain ⟨total, hshape, hcells, hconfigured⟩ := job_sums_every_frame_once SmallRecording.load
    SmallRecording.map_content SmallRecording.addressable (by decide) true SmallRecording.exact
  obtain ⟨job, tasks, hjob, -, -, hyields⟩ := (hconfigured 1 (some 3)).exists_job
    (by decide) (by decide)
  have hrun := (hyields { parallelism := 4 } rfl).run_eq .inline ThreadPool.keepsOrder_inline
    (.inr rfl)
  obtain ⟨moves, -, hmoves⟩ := (hyields {} rfl).exists_moves
  obtain ⟨cell, hcell, hvalue⟩ := hcells 0 (by decide) 0 (by decide)
  have hsum : ((List.range SmallRecording.dataset.geometry.frameCount).map
      (SmallRecording.dataset.countedAt true SmallRecording.content SmallRecording.darkAt
        (fun _ _ => 1) 0 0)).sum = 1 := by
    decide +kernel
  rw [hsum, Int.cast_one] at hvalue
  exact ⟨total, job, cell, hjob, hrun, ⟨moves, hmoves⟩, hshape, hcell, hvalue⟩

theorem too_many_partitions_have_no_sum :
    Dataset.load Mrc.read SmallRecording.files 1 ⟨SmallRecording.path, [2]⟩ =
        .ok SmallRecording.dataset ∧
      SmallRecording.dataset.Exact true SmallRecording.content SmallRecording.darkAt
        (fun _ _ => 1) ∧
      ∀ job, SumJob.ofDataset (SmallRecording.dataset.withPartitionCount (2 ^ 62)) true ≠
        .ok job := by
  obtain ⟨_, _, hopened⟩ := Dataset.opened_of_load SmallRecording.load
  refine ⟨SmallRecording.load, SmallRecording.exact, fun job hjob => ?_⟩
  rw [Dataset.configured_withPartitionCount, (hopened.configured ..).ofDataset_eq,
    if_pos (by decide)] at hjob
  contradiction

end DetectorScan
