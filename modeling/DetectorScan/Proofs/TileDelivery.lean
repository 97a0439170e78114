import DetectorScan.Proofs.RecordLayout
import DetectorScan.Proofs.Spans
import DetectorScan.TileStream.Delivery

/-!
# The tiles that a stream delivers

From each file a stream delivers the runs into which its frames are cut, as long as their
records lie inside the file. The first run that does not lie inside ends the stream with
the first frame whose record is not there.
-/

namespace DetectorScan

open FileDescriptor

/-- The tiles of a descriptor, if its file holds all of its frames. -/
def FileDescriptor.tiles (d : FileDescriptor) (m : FrameSizes) (content : FileContent)
    (budget : Nat) : List Tile :=
  (cuts (framesPerTile budget m.frameBytes) d.start d.stop).map (d.tileOn m content)

/-- The tiles of a descriptor before the first that its file does not hold. -/
def FileDescriptor.tilesWithin (d : FileDescriptor) (m : FrameSizes) (content : FileContent)
    (budget : Nat) : List Tile :=
  ((cuts (framesPerTile budget m.frameBytes) d.start d.stop).takeWhile
    fun s => s.stop ≤ d.limit m content.size).map (d.tileOn m content)

namespace TileStream

variable {files : FileView} {budget : Nat} {pending : List FileDescriptor}
  {m : FrameSizes}

def idle (budget : Nat) (pending : List FileDescriptor) : TileStream :=
  ⟨pending, none, budget, false⟩

def reading (budget : Nat) (f : OpenFile) (pending : List FileDescriptor) : TileStream :=
  ⟨pending, some f, budget, false⟩

/-- A delivery with more tiles in front. -/
def Delivery.after (tiles : List Tile) (d : Delivery) : Delivery :=
  { d with tiles := tiles ++ d.tiles }

theorem deliver_congr {s t : TileStream} (h : s.next files = t.next files) :
    s.deliver files = t.deliver files := by
  cases hn : t.next files with
  | tile tile rest => rw [deliver_of_tile (h.trans hn), deliver_of_tile hn]
  | failed cause rest => rw [deliver_of_failed (h.trans hn), deliver_of_failed hn]
  | finished rest => rw [deliver_of_finished (h.trans hn), deliver_of_finished hn]
  | fault f rest => rw [deliver_of_fault (h.trans hn), deliver_of_fault hn]

/-! ### One file -/

theorem next_reading_of_lt (files : FileView) (budget : Nat) (pending : List FileDescriptor)
    {f : OpenFile} (h : f.next < f.descriptor.stop) :
    (reading budget f pending).next files = cut budget f pending := by
  simp [reading, next, h]

theorem next_reading_of_le (files : FileView) (budget : Nat) (pending : List FileDescriptor)
    {f : OpenFile} (h : f.descriptor.stop ≤ f.next) :
    (reading budget f pending).next files = openNext files budget pending := by
  simp [reading, next, h]

theorem deliver_reading_of_le {f : OpenFile} (h : f.descriptor.stop ≤ f.next) :
    (reading budget f pending).deliver files = (idle budget pending).deliver files :=
  deliver_congr (next_reading_of_le files budget pending h)

theorem cut_of_fits (budget : Nat) (pending : List FileDescriptor) {f : OpenFile}
    (h : f.descriptor.Sized m) (hs : f.descriptor.fileStart ≤ f.next)
    (ht : f.next < f.descriptor.stop)
    (hfit : f.next + f.nextCount ≤ f.descriptor.limit m f.content.size) :
    cut budget f pending =
      .tile (f.descriptor.tileOn m f.content ⟨f.next, f.next + f.nextCount⟩)
        (reading budget f.advance pending) := by
  rw [cut, OpenFile.nextTile_eq h hs ht, if_pos hfit]
  rfl

theorem cut_of_not_fits (budget : Nat) (pending : List FileDescriptor) {f : OpenFile}
    (h : f.descriptor.Sized m) (hs : f.descriptor.fileStart ≤ f.next)
    (ht : f.next < f.descriptor.stop)
    (hfit : ¬ f.next + f.nextCount ≤ f.descriptor.limit m f.content.size) :
    cut budget f pending =
      .failed (.truncated f.descriptor.path
        (max f.next (f.descriptor.limit m f.content.size))) ⟨pending, none, budget, true⟩ := by
  rw [cut, OpenFile.nextTile_eq h hs ht, if_neg hfit]
  rfl

theorem cuts_next {f : OpenFile} (ht : f.next < f.descriptor.stop) :
    cuts f.framesPerTile f.next f.descriptor.stop =
      ⟨f.next, f.next + f.nextCount⟩ ::
        cuts f.framesPerTile f.advance.next f.descriptor.stop :=
  cuts_of_lt f.framesPerTile_pos ht

theorem deliver_reading_of_whole {f : OpenFile} (h : f.descriptor.Sized m)
    (hs : f.descriptor.fileStart ≤ f.next)
    (hfit : f.descriptor.stop ≤ f.descriptor.limit m f.content.size) :
    (reading budget f pending).deliver files =
      ((idle budget pending).deliver files).after
        ((cuts f.framesPerTile f.next f.descriptor.stop).map
          (f.descriptor.tileOn m f.content)) := by
  -- on the frames that are left: a cut moves `next` on, and nothing else of the open file
  induction hn : f.remaining using Nat.strong_induction_on generalizing f with
  | _ n ih =>
    by_cases ht : f.next < f.descriptor.stop
    · have hstop : f.next + f.nextCount ≤ f.descriptor.stop := by
        simp only [OpenFile.nextCount]
        omega
      have hcut := (next_reading_of_lt files budget pending ht).trans
        (cut_of_fits budget pending h hs ht (hstop.trans hfit))
      have hrest := ih f.advance.remaining (hn ▸ f.remaining_advance_lt ht) (f := f.advance)
        h (hs.trans (Nat.le_add_right ..)) hfit rfl
      rw [deliver_of_tile hcut, hrest, cuts_next ht]
      rfl
    · rw [deliver_reading_of_le (by omega), cuts_of_le _ (by omega)]
      rfl

/-- A file that does not hold all of its frames ends the stream. The frames before the
limit count whole runs only, but the error names the limit itself. -/
theorem deliver_reading_of_truncated {f : OpenFile} (h : f.descriptor.Sized m)
    (hs : f.descriptor.fileStart ≤ f.next) (ht : f.next < f.descriptor.stop)
    (hfit : f.descriptor.limit m f.content.size < f.descriptor.stop) :
    (reading budget f pending).deliver files =
      ⟨((cuts f.framesPerTile f.next f.descriptor.stop).takeWhile
          fun s => s.stop ≤ f.descriptor.limit m f.content.size).map
          (f.descriptor.tileOn m f.content),
        .failed (.truncated f.descriptor.path
          (max f.next (f.descriptor.limit m f.content.size))),
        ⟨pending, none, budget, true⟩⟩ := by
  -- cutting goes on below the limit only, so that the frame in the error stays the same
  induction hn : f.remaining using Nat.strong_induction_on generalizing f with
  | _ n ih =>
    have hnext := next_reading_of_lt files budget pending ht
    rw [cuts_next ht]
    by_cases hrun : f.next + f.nextCount ≤ f.descriptor.limit m f.content.size
    · have hlt : f.advance.next < f.descriptor.stop := Nat.lt_of_le_of_lt hrun hfit
      have hrest := ih f.advance.remaining (hn ▸ f.remaining_advance_lt ht) (f := f.advance)
        h (hs.trans (Nat.le_add_right ..)) hlt hfit rfl
      have hmax : max f.advance.next (f.descriptor.limit m f.content.size) =
          max f.next (f.descriptor.limit m f.content.size) :=
        (Nat.max_eq_right hrun).trans (Nat.max_eq_right (by omega)).symm
      rw [deliver_of_tile (hnext.trans (cut_of_fits budget pending h hs ht hrun)), hrest,
        List.takeWhile_cons_of_pos (by simpa using hrun), ← hmax]
      rfl
    · rw [deliver_of_failed (hnext.trans (cut_of_not_fits budget pending h hs ht hrun)),
        List.takeWhile_cons_of_neg (by simpa using hrun)]
      rfl

/-! ### All files -/

theorem ofDescriptor_eq {d : FileDescriptor} {content : FileContent} (h : d.Sized m)
    (hc : files.map d.path = .ok content) :
    OpenFile.ofDescriptor files budget d =
      .ok ⟨d, content, d.start, framesPerTile budget m.frameBytes,
        framesPerTile_pos budget m.frameBytes⟩ := by
  simp only [OpenFile.ofDescriptor, h.frameBytes_eq, hc, Attempt.liftM_ok, ok_bind,
    mapError_ok, Attempt.ofExcept_ok]
  rfl

theorem deliver_idle_cons {d : FileDescriptor} {content : FileContent} (h : d.Sized m)
    (hc : files.map d.path = .ok content) :
    (idle budget (d :: pending)).deliver files =
      (reading budget ⟨d, content, d.start, framesPerTile budget m.frameBytes,
        framesPerTile_pos budget m.frameBytes⟩ pending).deliver files := by
  apply deliver_congr
  simp only [idle, reading, next, openNext, ofDescriptor_eq h hc]
  rfl

theorem deliver_idle_nil :
    (idle budget []).deliver files = ⟨[], .finished, idle budget []⟩ :=
  deliver_of_finished rfl

theorem deliver_cons_of_whole {d : FileDescriptor} {content : FileContent} (h : d.Sized m)
    (hv : d.Valid) (hc : files.map d.path = .ok content)
    (hfit : d.start = d.stop ∨ d.stop ≤ d.limit m content.size) :
    (idle budget (d :: pending)).deliver files =
      ((idle budget pending).deliver files).after (d.tiles m content budget) := by
  rw [deliver_idle_cons h hc]
  rcases hfit with hempty | hfit
  · rw [deliver_reading_of_le hempty.ge, tiles, cuts_of_le _ hempty.ge]
    rfl
  · exact deliver_reading_of_whole h hv.1 hfit

theorem deliver_cons_of_truncated {d : FileDescriptor} {content : FileContent}
    (h : d.Sized m) (hv : d.Valid) (hc : files.map d.path = .ok content)
    (hlt : d.start < d.stop) (hfit : d.limit m content.size < d.stop) :
    (idle budget (d :: pending)).deliver files =
      ⟨d.tilesWithin m content budget,
        .failed (.truncated d.path (max d.start (d.limit m content.size))),
        ⟨pending, none, budget, true⟩⟩ := by
  rw [deliver_idle_cons h hc]
  exact deliver_reading_of_truncated h hv.1 hlt hfit

end TileStream

end DetectorScan
