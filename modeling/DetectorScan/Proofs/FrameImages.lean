import DetectorScan.Proofs.Planes
import DetectorScan.Proofs.TileFrames

/-!
# Frames as images

What a task adds to its total for one tile: the stored pixels of each frame as numbers of
the 32-bit format, corrected cell by cell, and summed over the frames of the tile.
-/

namespace DetectorScan

variable {ι : Type}

/-- The sum of numbers in their order, from zero on. -/
def Binary32.sumOver (f : ι → Binary32) (xs : List ι) : Binary32 :=
  xs.foldl (fun total x => total + f x) .zero

theorem shape_sumFrames (shape : List Nat) (frames : List (Grid Binary32)) :
    (sumFrames shape frames).shape = shape := by
  have hfold : ∀ total : Grid Binary32,
      (frames.foldl (Grid.combine (· + ·)) total).shape = total.shape := by
    induction frames with
    | nil => exact fun _ => rfl
    | cons frame rest ih =>
      intro total
      rw [List.foldl_cons, ih, Grid.shape_combine]
  exact hfold _

theorem sumFrames_tabulate (shape : List Nat) (v : ι → Nat → Binary32) (xs : List ι) :
    sumFrames shape (xs.map fun x => .tabulate shape (v x)) =
      .tabulate shape fun k => Binary32.sumOver (fun x => v x k) xs := by
  have hfold : ∀ total : Nat → Binary32,
      (xs.map fun x => Grid.tabulate shape (v x)).foldl (Grid.combine (· + ·))
          (.tabulate shape total) =
        .tabulate shape fun k => xs.foldl (fun total x => total + v x k) (total k) := by
    induction xs with
    | nil => exact fun _ => rfl
    | cons x xs ih =>
      intro total
      rw [List.map_cons, List.foldl_cons, Grid.combine_tabulate, ih]
      rfl
  rw [sumFrames, Grid.filled_eq_tabulate, hfold]
  rfl

/-! ### Corrections -/

namespace CorrectionSet

variable {c : CorrectionSet} {shape : List Nat}

/-- The images that are there have a shape. -/
structure Matches (c : CorrectionSet) (shape : List Nat) : Prop where
  dark : ∀ g, c.dark = some g → g.shape = shape
  gain : ∀ g, c.gain = some g → g.shape = shape

def onCell (f : Binary32 → Binary32 → Binary32) (image : Option (Grid Binary32)) (k : Nat)
    (x : Binary32) : Binary32 :=
  match image with
  | none => x
  | some g => f x (g.cells.getD k .zero)

/-- Corrects the number of one cell. -/
def corrected (c : CorrectionSet) (k : Nat) (x : Binary32) : Binary32 :=
  onCell (· * ·) c.gain k (onCell (· - ·) c.dark k x)

theorem applyOne_tabulate {kind : CorrectionKind} (f : Binary32 → Binary32 → Binary32)
    {image : Option (Grid Binary32)} (h : ∀ g, image = some g → g.shape = shape)
    (v : Nat → Binary32) :
    applyOne kind f image (.tabulate shape v) =
      .ok (.tabulate shape fun k => onCell f image k (v k)) := by
  cases image with
  | none => rfl
  | some g =>
    have hshape : (Grid.tabulate shape v).shape = g.shape := (h g rfl).symm
    rw [applyOne, dif_pos hshape, Grid.zipWith_tabulate_left f v .zero]
    rfl

theorem apply_tabulate (h : c.Matches shape) (v : Nat → Binary32) :
    c.apply (.tabulate shape v) = (.tabulate shape fun k => c.corrected k (v k), .ok ()) := by
  rw [apply, applyOne_tabulate _ h.dark]
  simp only [applyOne_tabulate _ h.gain]
  rfl

theorem correctFrames_tabulate (h : c.Matches shape) (v : ι → Nat → Binary32) (xs : List ι) :
    correctFrames c (xs.map fun x => .tabulate shape (v x)) =
      .ok (xs.map fun x => .tabulate shape fun k => c.corrected k (v x k)) := by
  rw [correctFrames, List.mapM_map]
  refine mapM_eq_ok fun x _ => ?_
  simp only [Function.comp_apply, apply_tabulate h]

theorem corrected_of_isEmpty (h : c.isEmpty = true) (k : Nat) (x : Binary32) :
    c.corrected k x = x := by
  obtain ⟨dark, gain⟩ := c
  simp only [isEmpty, Bool.and_eq_true, Option.isNone_iff_eq_none] at h
  obtain ⟨rfl, rfl⟩ := h
  rfl

end CorrectionSet

/-! ### Stored pixels -/

theorem Bytes.items_eq (width : Nat) (b : Bytes) :
    b.items width = (List.range (b.length / width)).map fun k =>
      value ((b.drop (k * width)).take width) := by
  refine List.ext_getElem? fun k => ?_
  by_cases hk : k < b.length / width
  · rw [getElem?_items hk]
    simp [List.getElem?_range hk]
  · have hitems : (b.items width).length ≤ k := by
      rw [length_items]
      omega
    rw [List.getElem?_eq_none hitems, List.getElem?_eq_none (by simp; omega)]

namespace FileDescriptor

/-- A pixel of a frame as it is stored. -/
def pixel (d : FileDescriptor) (m : FrameSizes) (content : FileContent) (frame k : Nat) :
    Nat :=
  Bytes.value (((d.stored m content frame).drop (k * d.element.size)).take d.element.size)

def image (d : FileDescriptor) (m : FrameSizes) (content : FileContent) (frame : Nat) :
    Grid Binary32 :=
  .tabulate [m.height, m.width] fun k => .ofNat (d.pixel m content frame k)

/-- The frames of a descriptor are planes that are not empty. -/
structure Planar (d : FileDescriptor) (m : FrameSizes) : Prop where
  signal_eq : d.signal = [m.height, m.width]
  frameBytes_eq : m.frameBytes = m.height * m.width * d.element.size
  pixels_pos : 0 < m.height * m.width
  height_le : m.height ≤ maxObjectSize
  width_le : m.width ≤ maxObjectSize

variable {d : FileDescriptor} {m : FrameSizes} {content : FileContent} {s : Span}

theorem volume_plane (height width : Nat) : volume [height, width] = height * width := by
  simp [volume]

theorem cell_lt {height width y x : Nat} (hy : y < height) (hx : x < width) :
    y * width + x < height * width := by
  have hrow : (y + 1) * width ≤ height * width := Nat.mul_le_mul_right _ hy
  rw [Nat.add_mul, Nat.one_mul] at hrow
  omega

theorem Planar.reals_stored (hp : d.Planar m) (h : d.Held m content s) {frame : Nat}
    (hf : frame ∈ s.frames) :
    d.element.reals (d.stored m content frame) = (d.image m content frame).cells := by
  have hcount : m.frameBytes / d.element.size = volume [m.height, m.width] := by
    rw [hp.frameBytes_eq, Nat.mul_div_cancel _ d.element.size_pos, volume_plane]
  rw [ElementType.reals_eq, Bytes.items_eq, h.length_stored hf, hcount, List.map_map]
  rfl

/-- The frames of a tile lie one behind the other in the file. -/
theorem Held.payload_le (h : d.Held m content s) (hlt : s.start < s.stop) :
    (s.stop - s.start) * m.frameBytes ≤ content.size := by
  have hmem : s.stop - 1 ∈ s.frames := Span.mem_frames.2 (by omega)
  have hlast := h.recordStart_le hmem
  rw [← recordStart_succ (by have := h.start_ge; omega),
    show s.stop - 1 + 1 = s.start + (s.stop - s.start) by omega,
    recordStart_add h.start_ge] at hlast
  have hsum := h.sized.stride_sum
  have hall : (s.stop - s.start) * m.frameBytes ≤ (s.stop - s.start) * m.stride :=
    Nat.mul_le_mul_left _ (by omega)
  omega

/-- The numbers of a tile, four bytes each, are no larger than an object can be, and its axes
span no more. -/
structure Roomy (d : FileDescriptor) (m : FrameSizes) (s : Span) : Prop where
  addressable : Grid.Addressable [s.stop - s.start, m.height, m.width]
  holds : Growth.atOnce.Holds Binary32.size
    ((s.stop - s.start) * m.frameBytes / d.element.size)

theorem Held.roomy (h : d.Held m content s) (hp : d.Planar m) (hlt : s.start < s.stop)
    (hsize : content.size < FileView.addressLimit) : d.Roomy m s := by
  have hpayload := h.payload_le hlt
  unfold FileView.addressLimit at hsize
  constructor
  · have hpixels := hp.pixels_pos
    have hheight : m.height ≠ 0 := by
      rintro heq
      simp [heq] at hpixels
    have hwidth : m.width ≠ 0 := by
      rintro heq
      simp [heq] at hpixels
    have hframe : m.height * m.width ≤ m.frameBytes := by
      rw [hp.frameBytes_eq]
      exact Nat.le_mul_of_pos_right _ d.element.size_pos
    have hall := Nat.mul_le_mul_left (s.stop - s.start) hframe
    have hvolume : volume ([s.stop - s.start, m.height, m.width].filter (· ≠ 0)) =
        (s.stop - s.start) * (m.height * m.width) := by
      rw [List.filter_eq_self.2 (by simp [hheight, hwidth]; omega)]
      simp [volume]
    rw [Grid.Addressable, hvolume, maxObjectSize]
    omega
  · have hdivide := Nat.div_le_self ((s.stop - s.start) * m.frameBytes) d.element.size
    rw [Growth.holds_atOnce, Binary32.size, maxObjectSize]
    omega

/-- A tile is the stack of the images of its frames. -/
theorem Held.reals_tileOn (h : d.Held m content s) (hp : d.Planar m) (hroom : d.Roomy m s) :
    ∃ stack, (d.tileOn m content s).reals = .ok stack ∧
      stack.layers = s.frames.map (d.image m content) := by
  have hcells : (s.frames.map (d.stored m content)).flatMap d.element.reals =
      s.frames.flatMap fun frame => (d.image m content frame).cells := by
    rw [List.flatMap_map]
    exact List.flatMap_congr fun frame hf => hp.reals_stored h hf
  have hlength : (s.frames.flatMap fun frame => (d.image m content frame).cells).length =
      s.frames.length * volume [m.height, m.width] :=
    length_flatMap_of_length fun frame _ => (d.image m content frame).length_cells
  have hvolume : (s.frames.flatMap fun frame => (d.image m content frame).cells).length =
      volume [s.stop - s.start, m.height, m.width] := by
    rw [hlength, s.length_frames]
    rfl
  have hshaped : Grid.shaped [s.stop - s.start, m.height, m.width]
      (s.frames.flatMap fun frame => (d.image m content frame).cells) =
        .ok ⟨_, _, hvolume⟩ := by
    rw [Grid.shaped, if_neg (not_not.2 hroom.addressable), if_neg (by omega), dif_pos hvolume]
  refine ⟨⟨_, _, hvolume⟩, ?_, ?_⟩
  · simp only [Tile.reals, h.payloadBytes_tileOn, h.payloads_tileOn, Tile.shaped,
      h.frameCount_tileOn, Attempt.liftM_ok, ok_bind]
    simp only [tileOn, hcells, hshaped, Growth.reserve_of_holds hroom.holds, Attempt.liftM_ok,
      ok_bind]
    rfl
  · exact Grid.layers_flatMap _ s.length_frames.symm rfl hvolume

end FileDescriptor

/-! ### Adding a tile -/

theorem zip_replicate_zero (xs : List Nat) :
    (List.replicate xs.length 0).zip xs = xs.map fun x => (0, x) := by
  induction xs with
  | nil => rfl
  | cons x xs ih => simp [List.replicate_succ, ih]

theorem Slice.signalBounds_frames (start count : Nat) {signal : List Nat}
    (h : ∀ length ∈ signal, length < wordLimit) :
    (Slice.frames start count signal).signalBounds =
      .ok (signal.map fun length => ⟨0, length⟩) := by
  have hrank : (Slice.frames start count signal).shape.navigationRank = .ok 1 :=
    Shape.navigationRank_ofParts [count] signal
  have hentries : ((Slice.frames start count signal).origin.drop 1).zip
      ((Slice.frames start count signal).shape.dims.drop 1) =
        signal.map fun length => (0, length) :=
    zip_replicate_zero signal
  have horigin : ¬ (Slice.frames start count signal).origin.length < 1 := by
    simp [Slice.frames]
  rw [signalBounds, hrank, ok_bind, if_neg horigin, hentries, List.mapM_map]
  refine mapM_eq_ok fun length hl => ?_
  have hadd : Word.add 0 length = .ok length := by
    rw [Word.add_of_lt (by rw [Nat.zero_add]; exact h length hl), Nat.zero_add]
  simp only [Function.comp_apply, hadd, ok_bind]
  rfl

namespace SumTask

open FileDescriptor

variable {task : SumTask} {d : FileDescriptor} {m : FrameSizes} {content : FileContent}
  {s : Span}

def used (task : SumTask) : CorrectionSet :=
  if task.applyCorrections then task.partition.corrections else {}

def counted (task : SumTask) (d : FileDescriptor) (m : FrameSizes) (content : FileContent)
    (k frame : Nat) : Binary32 :=
  task.used.corrected k (.ofNat (d.pixel m content frame k))

theorem framesOf_tileOn (h : d.Held m content s) (hp : d.Planar m) (hroom : d.Roomy m s)
    (hc : task.used.Matches [m.height, m.width]) :
    task.framesOf (d.tileOn m content s) = .ok (s.frames.map fun frame =>
      .tabulate [m.height, m.width] fun k => task.counted d m content k frame) := by
  obtain ⟨stack, hstack, hlayers⟩ := h.reals_tileOn hp hroom
  simp only [framesOf, hstack, Attempt.widen, ok_bind]
  by_cases happly : task.applyCorrections ∧ ¬ task.partition.corrections.isEmpty
  · have hused : task.partition.corrections = task.used := by rw [used, if_pos happly.1]
    have hall := CorrectionSet.correctFrames_tabulate hc
      (fun frame k => .ofNat (d.pixel m content frame k)) s.frames
    have himages : correctFrames task.used (s.frames.map (d.image m content)) = _ := hall
    rw [if_pos happly, hlayers, hused, himages]
    rfl
  · have hempty : task.used.isEmpty = true := by
      rw [used]
      split
      · next happlied => simpa [happlied] using happly
      · rfl
    rw [if_neg happly, hlayers]
    simp only [counted, CorrectionSet.corrected_of_isEmpty hempty]
    rfl

/-- A tile adds the sum of its frames to all of the total. -/
theorem addTile_tileOn_eq (task : SumTask) (content : FileContent) (s : Span)
    (hp : d.Planar m) {total : Grid Binary32} (htotal : total.shape = [m.height, m.width]) :
    task.addTile (d.tileOn m content s) total =
      (task.framesOf (d.tileOn m content s) >>= fun frames =>
        .ok (total.zipWith (· + ·) (sumFrames [m.height, m.width] frames)
          (htotal.trans (shape_sumFrames ..).symm))) := by
  have hword : maxObjectSize < wordLimit := by decide
  have hheight := hp.height_le
  have hwidth := hp.width_le
  have hbounds : (d.tileOn m content s).slice.signalBounds =
      .ok [⟨0, m.height⟩, ⟨0, m.width⟩] := by
    have hlengths : ∀ length ∈ d.signal, length < wordLimit := by
      rw [hp.signal_eq]
      simp
      omega
    simp only [tileOn]
    rw [Slice.signalBounds_frames s.start (s.stop - s.start) hlengths, hp.signal_eq]
    rfl
  have hadd : ∀ frames : List (Grid Binary32),
      total.combineBlock (· + ·) ⟨0, m.height⟩ ⟨0, m.width⟩
          (sumFrames [m.height, m.width] frames) =
        .ok (total.zipWith (· + ·) (sumFrames [m.height, m.width] frames)
          (htotal.trans (shape_sumFrames ..).symm)) := fun frames =>
    Grid.combineBlock_full _ htotal (shape_sumFrames ..) hp.pixels_pos hheight hwidth
  simp only [addTile, hbounds, Attempt.liftM_ok, ok_bind, addToTotal]
  simp only [tileOn, hadd]
  rfl

/-- A tile adds to each cell of the total the sum over its frames. -/
theorem addTile_tileOn (h : d.Held m content s) (hp : d.Planar m) (hroom : d.Roomy m s)
    (hc : task.used.Matches [m.height, m.width]) (total : Nat → Binary32) :
    task.addTile (d.tileOn m content s) (.tabulate [m.height, m.width] total) =
      .ok (.tabulate [m.height, m.width] fun k =>
        total k + Binary32.sumOver (task.counted d m content k) s.frames) := by
  rw [addTile_tileOn_eq task content s hp rfl, framesOf_tileOn h hp hroom hc, ok_bind]
  simp only [sumFrames_tabulate, Grid.zipWith_tabulate]

end SumTask

end DetectorScan
