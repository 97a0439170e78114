import DetectorScan.Proofs.FrameImages
import DetectorScan.Proofs.NearestNumbers
import DetectorScan.Proofs.TileOrigins

/-!
# Decoded tiles

A tile of a stream is decoded as the element type of its descriptor and as no other, to a grid
with a plane for each of its frames, and every cell is the number that the file stores for it.
As numbers of the 32-bit format a tile has the same cells, each rounded to the nearest.
-/

namespace DetectorScan

/-! ### Planes -/

theorem Word.eq_volume_of_foldlM_mul {dims : List Nat} {a n : Nat}
    (h : dims.foldlM mul a = .ok n) : n = a * volume dims := by
  induction dims generalizing a with
  | nil =>
    cases h
    simp [volume]
  | cons d rest ih =>
    rw [List.foldlM_cons] at h
    obtain ⟨b, hb, h⟩ := bind_eq_ok.1 h
    obtain ⟨-, rfl⟩ := mul_eq_ok.1 hb
    rw [ih h, Nat.mul_assoc]
    rfl

/-- A frame of any number of axes is a plane of as many pixels. -/
theorem volume_of_planeOf {signal : List Nat} {height width : Nat}
    (h : planeOf signal = .ok (height, width)) : volume signal = height * width := by
  unfold planeOf at h
  split at h
  · cases h
    simp [volume]
  · cases h
    simp [volume]
  · obtain ⟨n, hn, h⟩ := bind_eq_ok.1 h
    cases h
    have := Word.eq_volume_of_foldlM_mul hn
    omega

theorem FileDescriptor.frameBytes_eq_plane {d : FileDescriptor} {frameBytes height width : Nat}
    (hbytes : d.frameBytes = .ok frameBytes)
    (hplane : planeOf d.signal = .ok (height, width)) :
    frameBytes = height * width * d.element.size := by
  obtain ⟨n, hn, hmul⟩ := bind_eq_ok.1 hbytes
  obtain ⟨-, rfl⟩ := Word.mul_eq_ok.1 hmul
  rw [← volume_of_planeOf hplane, Word.eq_volume_of_foldlM_mul hn, Nat.one_mul]

/-! ### Cells -/

namespace Tile

namespace CutFrom

variable {t : Tile} {files : FileView} {d : FileDescriptor} {s : Span} {i : Nat}

theorem frameBytes_eq_plane (h : t.CutFrom files d s) :
    t.frameBytes = t.height * t.width * t.element.size := by
  rw [h.element_eq]
  exact FileDescriptor.frameBytes_eq_plane h.frameBytes_eq h.plane_eq

/-- The frames of a tile are no larger than its file. -/
theorem payload_le (h : t.CutFrom files d s) :
    (s.stop - s.start) * t.frameBytes ≤ t.content.size := by
  obtain ⟨start, -, hsize⟩ := h.records_le
  have hsum := FileDescriptor.stride_eq_sum h.frameBytes_eq h.stride_eq
  have hall : (s.stop - s.start) * t.frameBytes ≤ (s.stop - s.start) * t.stride :=
    Nat.mul_le_mul_left _ (by omega)
  omega

theorem payloadBytes_div (h : t.CutFrom files d s) :
    (s.stop - s.start) * t.frameBytes / t.element.size =
      (s.stop - s.start) * (t.height * t.width) := by
  rw [h.frameBytes_eq_plane, ← Nat.mul_assoc, Nat.mul_div_cancel _ t.element.size_pos]

/-- What is in a mapped file has room in memory, as elements and as 32-bit numbers. -/
theorem holds_cells (h : t.CutFrom files d s) (haddressable : files.Addressable) {size : Nat}
    (hsize : size ≤ 8) :
    Growth.atOnce.Holds size ((s.stop - s.start) * (t.height * t.width)) := by
  have hmapped : t.content.size < 2 ^ 57 := haddressable _ _ h.found
  have hpayload := h.payload_le
  have hcells := Nat.div_le_self ((s.stop - s.start) * t.frameBytes) t.element.size
  rw [h.payloadBytes_div] at hcells
  have hroom : (s.stop - s.start) * (t.height * t.width) * size ≤
      (s.stop - s.start) * (t.height * t.width) * 8 := Nat.mul_le_mul_left _ hsize
  rw [Growth.holds_atOnce, maxObjectSize]
  omega

theorem length_items (h : t.CutFrom files d s) (hb : d.Bounded) (hi : i < s.stop - s.start) :
    ((t.stored i).items t.element.size).length = t.height * t.width := by
  rw [Bytes.length_items, h.length_stored hb hi, h.frameBytes_eq_plane,
    Nat.mul_div_cancel _ t.element.size_pos]

/-- A number of a frame is read in the file, at its place behind the pixels before it. -/
theorem natAt_items (h : t.CutFrom files d s) (hb : d.Bounded) (hi : i < s.stop - s.start)
    {k : Nat} (hk : k < t.height * t.width) :
    ∃ value, t.content.toBytes.natAt (t.offset + i * t.stride + k * t.element.size)
        t.element.size = .ok value ∧
      ((t.stored i).items t.element.size)[k]? = some value := by
  obtain ⟨-, -, hsize⟩ := h.payload_bounds hb hi
  have hpixel : (k + 1) * t.element.size ≤ t.frameBytes := by
    rw [h.frameBytes_eq_plane]
    exact Nat.mul_le_mul_right _ hk
  exact Bytes.natAt_items (by rwa [t.content.length_toBytes]) t.element.size_pos hpixel

theorem shaped_eq {α : Type} (h : t.CutFrom files d s) (hb : d.Bounded) {cells : List α}
    (haddr : Grid.Addressable [s.stop - s.start, t.height, t.width])
    (hcells : cells.length = volume [s.stop - s.start, t.height, t.width]) :
    t.shaped cells = .ok ⟨_, cells, hcells⟩ := by
  rw [Tile.shaped, h.frameCount_eq hb, Attempt.liftM_ok, ok_bind, Grid.shaped,
    if_neg (not_not.2 haddr), if_neg (by omega), dif_pos hcells]
  rfl

end CutFrom

theorem decode_of_ne {t : Tile} {element : ElementType} (h : element ≠ t.element) :
    t.decode element = Attempt.refuse (.elementType element t.element) := by
  rw [Tile.decode, if_pos h]
  rfl

end Tile

namespace FileDescriptor

/-- A grid with a plane for each frame of a run. Its cells are the numbers that a file stores
for the pixels of the frames, row by row. -/
structure StoredGrid (d : FileDescriptor) (content : FileContent) (s : Span) (height width : Nat)
    (grid : Grid Nat) : Prop where
  shape_eq : grid.shape = [s.stop - s.start, height, width]
  cell : ∀ i < s.stop - s.start, ∀ y < height, ∀ x < width, ∃ offset value,
    d.payloadOffset (s.start + i) = .ok offset ∧
    content.toBytes.natAt (offset + (y * width + x) * d.element.size) d.element.size =
      .ok value ∧
    grid.cells[(i * height + y) * width + x]? = some value

end FileDescriptor

/-- A grid of numbers of the 32-bit format, each the nearest to the natural number in its
place. -/
structure Grid.RoundedTo (grid : Grid Nat) (numbers : Grid Binary32) : Prop where
  shape_eq : numbers.shape = grid.shape
  cell : ∀ (k n : Nat), grid.cells[k]? = some n →
    ∃ x value, numbers.cells[k]? = some x ∧ x.NearestTo n value

theorem Grid.roundedTo_map {grid : Grid Nat} (h : ∀ n ∈ grid.cells, n < 2 ^ 64) :
    grid.RoundedTo (grid.map .ofNat) where
  shape_eq := rfl
  cell k n hn := by
    obtain ⟨value, hvalue⟩ := Binary32.nearestTo_ofNat (h n (List.mem_of_getElem? hn))
    refine ⟨.ofNat n, value, ?_, hvalue⟩
    rw [Grid.map, List.getElem?_map, hn]
    rfl

theorem ElementType.size_le (t : ElementType) : t.size ≤ 8 := by
  cases t <;> decide

theorem ElementType.mapM_first_chunks (t : ElementType) (payloads : List Bytes) :
    (payloads.flatMap (·.chunks t.size)).mapM t.first =
      .ok (payloads.flatMap (·.items t.size)) := by
  have hparts : ∀ part ∈ payloads.flatMap (·.chunks t.size), t.first part = .ok part.value := by
    intro part hpart
    obtain ⟨b, -, hb⟩ := List.mem_flatMap.1 hpart
    exact first_of_length (Bytes.length_of_mem_chunks hb)
  rw [mapM_eq_ok hparts, List.map_flatMap]
  rfl

theorem ElementType.flatMap_reals (t : ElementType) (payloads : List Bytes) :
    payloads.flatMap t.reals = (payloads.flatMap (·.items t.size)).map .ofNat := by
  rw [List.map_flatMap]
  exact List.flatMap_congr fun b _ => t.reals_eq b

theorem ElementType.lt_of_mem_items {t : ElementType} {payloads : List Bytes} {n : Nat}
    (h : n ∈ payloads.flatMap (·.items t.size)) : n < 2 ^ 64 := by
  obtain ⟨b, -, hb⟩ := List.mem_flatMap.1 h
  obtain ⟨part, hpart, rfl⟩ := List.mem_map.1 hb
  have hlt := part.value_lt
  rw [Bytes.length_of_mem_chunks hpart, Nat.pow_eq] at hlt
  exact hlt.trans_le (Nat.pow_le_pow_right (by decide) t.size_le)

theorem Tile.CutFrom.reals_of_not_holds {t : Tile} {files : FileView} {d : FileDescriptor}
    {s : Span} (h : t.CutFrom files d s) (hb : d.Bounded)
    (hcells : ¬ Growth.atOnce.Holds Binary32.size ((s.stop - s.start) * (t.height * t.width))) :
    t.reals = .error (.fault .overflow) := by
  rw [Tile.reals, h.payloadBytes_eq hb]
  simp only [Attempt.liftM_ok, ok_bind]
  rw [h.payloadBytes_div, Growth.reserve_of_not_holds hcells]
  rfl

theorem Tile.CutFrom.decode_eq {t : Tile} {files : FileView} {d : FileDescriptor} {s : Span}
    (h : t.CutFrom files d s) (hb : d.Bounded) (haddressable : files.Addressable)
    (haddr : Grid.Addressable [s.stop - s.start, t.height, t.width]) :
    ∃ grid numbers, t.decode t.element = .ok grid ∧ t.reals = .ok numbers ∧
      d.StoredGrid t.content s t.height t.width grid ∧ grid.RoundedTo numbers := by
  have hrows : ∀ i ∈ List.range (s.stop - s.start),
      ((t.stored i).items t.element.size).length = t.height * t.width :=
    fun i hi => h.length_items hb (List.mem_range.1 hi)
  have hcells : (((List.range (s.stop - s.start)).map t.stored).flatMap
      (·.items t.element.size)).length = volume [s.stop - s.start, t.height, t.width] := by
    rw [List.flatMap_map, length_flatMap_of_length hrows, List.length_range]
    simp [volume]
  have hstored := h.holds_cells haddressable t.element.size_le
  have hreals : Growth.atOnce.Holds Binary32.size
      ((s.stop - s.start) * (t.height * t.width)) := h.holds_cells haddressable (by decide)
  refine ⟨⟨_, _, hcells⟩, _, ?_, ?_, ⟨rfl, ?_⟩, Grid.roundedTo_map fun n hn =>
    ElementType.lt_of_mem_items hn⟩
  · rw [Tile.decode, if_neg (not_not.2 rfl), h.payloadBytes_eq hb, h.payloads_eq hb]
    simp only [Attempt.liftM_ok, ok_bind, h.payloadBytes_div, Growth.reserve_of_holds hstored,
      t.element.mapM_first_chunks]
    exact h.shaped_eq hb haddr hcells
  · rw [Tile.reals, h.payloadBytes_eq hb, h.payloads_eq hb]
    simp only [Attempt.liftM_ok, ok_bind, h.payloadBytes_div, Growth.reserve_of_holds hreals,
      t.element.flatMap_reals]
    exact h.shaped_eq hb haddr ((List.length_map ..).trans hcells)
  · intro i hi y hy x hx
    have hk := FileDescriptor.cell_lt hy hx
    obtain ⟨value, hvalue, hitem⟩ := h.natAt_items hb hi hk
    have hcell : (((List.range (s.stop - s.start)).map t.stored).flatMap
        (·.items t.element.size))[i * (t.height * t.width) + (y * t.width + x)]? = some value := by
      rw [List.flatMap_map, getElem?_flatMap_of_length hrows hk, List.getElem?_range hi]
      exact hitem
    have hindex : (i * t.height + y) * t.width + x =
        i * (t.height * t.width) + (y * t.width + x) := by
      rw [Nat.add_mul, Nat.mul_assoc, Nat.add_assoc]
    refine ⟨_, value, (h.payload_bounds hb hi).1, h.element_eq ▸ hvalue, ?_⟩
    rw [hindex]
    exact hcell

namespace TileStream

open FileDescriptor FileSet

variable {files : FileView}

/-- A tile that a stream over a file set delivers holds a run of frames of one descriptor. It is
decoded as the element type of the descriptor only, to the numbers that the file stores for
these frames, and its numbers of the 32-bit format are the nearest to these. Were a file mapped
that holds too many of them, there would be no room for their numbers of four bytes each. -/
theorem delivered_tiles_decode_to_stored_numbers {s : FileSet} (hs : s.Tiled)
    (hb : ∀ d ∈ s.files, d.Bounded) {budget : Nat} {t : Tile}
    (ht : t ∈ ((ofFileSet s budget).deliver files).tiles) :
    ∃ d ∈ s.files, ∃ span content, files.map d.path = .ok content ∧
      t.slice.frameSpan = .ok span ∧ t.frameCount = .ok (span.stop - span.start) ∧
      (∀ frame ∈ span.frames, s.owner? frame = some d) ∧
      t.element = d.element ∧ planeOf d.signal = .ok (t.height, t.width) ∧
      (∀ element, element ≠ t.element →
        t.decode element = Attempt.refuse (.elementType element t.element)) ∧
      (files.Addressable → Grid.Addressable [span.stop - span.start, t.height, t.width] →
        (∀ element, (∃ grid, t.decode element = .ok grid) ↔ element = t.element) ∧
        ∃ grid numbers, t.decode t.element = .ok grid ∧ t.reals = .ok numbers ∧
          d.StoredGrid content span t.height t.width grid ∧ grid.RoundedTo numbers) ∧
      (¬ Growth.atOnce.Holds Binary32.size ((span.stop - span.start) * (t.height * t.width)) →
        t.reals = .error (.fault .overflow)) := by
  obtain ⟨d, hd, span, hcut⟩ := (readsFrom_ofFileSet s budget).cutFrom_of_mem ht
  have hbd := hb d hd
  refine ⟨d, hd, span, t.content, hcut.found, hcut.frameSpan_eq hbd, hcut.frameCount_eq hbd, ?_,
    hcut.element_eq, hcut.plane_eq, fun _ => Tile.decode_of_ne, fun haddressable haddr => ?_,
    hcut.reals_of_not_holds hbd⟩
  · intro frame hf
    obtain ⟨hlow, hhigh⟩ := Span.mem_frames.1 hf
    exact hs.owner?_eq hd ⟨hcut.start_ge.trans hlow, hhigh.trans_le hcut.stop_le⟩
  · obtain ⟨grid, numbers, hdecode, hgrid⟩ := hcut.decode_eq hbd haddressable haddr
    refine ⟨fun element => ⟨?_, ?_⟩, grid, numbers, hdecode, hgrid⟩
    · rintro ⟨other, hother⟩
      by_contra hne
      rw [Tile.decode_of_ne hne] at hother
      cases hother
    · rintro rfl
      exact ⟨grid, hdecode⟩

/-- The first two frames of the mixed files, which are rows of two pixels. -/
def firstMixedTile : Tile where
  slice := .frames 1 2 [2]
  element := .uint8
  content := .ofBytes [0, 0, 9, 1, 2, 9, 9, 3, 4, 9, 9, 5, 6, 9]
  offset := 7
  stride := 4
  frameBytes := 2
  height := 1
  width := 2

theorem firstMixedTile_mem :
    firstMixedTile ∈ ((ofFileSet mixedFiles 4).deliver mixedView).tiles := by
  have hnext : ∃ rest, (ofFileSet mixedFiles 4).next mixedView = .tile firstMixedTile rest :=
    ⟨_, rfl⟩
  obtain ⟨rest, hrest⟩ := hnext
  rw [deliver_of_tile hrest]
  exact List.mem_cons_self ..

theorem addressable_mixedView : mixedView.Addressable := by
  intro p c hmap
  have hfind := (FileView.map_eq_ok.1 hmap).1
  simp only [mixedView] at hfind
  split at hfind <;> cases hfind <;> decide

theorem first_mixed_tile_decodes :
    mixedFiles.Tiled ∧ (∀ d ∈ mixedFiles.files, d.Bounded) ∧
      firstMixedTile ∈ ((ofFileSet mixedFiles 4).deliver mixedView).tiles ∧
      mixedView.Addressable ∧ Grid.Addressable [2, 1, 2] ∧
      firstMixedTile.decode .uint16 = Attempt.refuse (.elementType .uint16 .uint8) ∧
      ∃ d ∈ mixedFiles.files, ∃ content grid numbers,
        mixedView.map d.path = .ok content ∧
        firstMixedTile.decode .uint8 = .ok grid ∧ firstMixedTile.reals = .ok numbers ∧
        d.StoredGrid content ⟨1, 3⟩ 1 2 grid ∧ grid.RoundedTo numbers := by
  have htiled : mixedFiles.Tiled := by decide
  have hbounded : ∀ d ∈ mixedFiles.files, d.Bounded := fun d hd =>
    (measured_mixedFiles d hd).bounded
  have haddr : Grid.Addressable [2, 1, 2] := by decide
  obtain ⟨d, hd, span, content, hmap, hspan, -, -, -, -, hother, hdecode, -⟩ :=
    delivered_tiles_decode_to_stored_numbers htiled hbounded firstMixedTile_mem
  obtain rfl : ⟨1, 3⟩ = span := Except.ok.inj (show _ = Except.ok span from hspan)
  obtain ⟨-, grid, numbers, hgrid, hreals, hstored, hrounded⟩ :=
    hdecode addressable_mixedView haddr
  exact ⟨htiled, hbounded, firstMixedTile_mem, addressable_mixedView, haddr,
    hother .uint16 (by decide), d, hd, content, grid, numbers, hmap, hgrid, hreals, hstored,
    hrounded⟩

end TileStream

end DetectorScan
