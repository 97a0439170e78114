import DetectorScan.Proofs.FrameDelivery
import DetectorScan.Proofs.FrameImages
import DetectorScan.Proofs.Interleaving

/-!
# What a task gives

A task that is not stopped adds the tiles that its partition delivers, and then ends as
the tiles end. On a partition whose frames the file holds it gives the sum of the frames,
tile by tile; on any other it fails with the first frame that is not there.
-/

namespace DetectorScan

open FileDescriptor TileStream

/-- How a task ends after the tiles of a stream. -/
def TileStream.Ending.outcome (total : Grid Binary32) :
    Ending → Attempt JobError (Grid Binary32)
  | .finished => .ok total
  | .failed cause => Attempt.refuse (.read cause)
  | .fault f => .error (.fault f)

namespace SumTask

variable {task : SumTask} {files : FileView} {cancelled : Bool}

/-- A task that is not stopped adds all tiles that its stream delivers. -/
theorem finish_running (stream : TileStream) (total : Grid Binary32) :
    task.finish files false (.running stream total) =
      ((stream.deliver files).tiles.foldlM (fun total tile => task.addTile tile total) total >>=
        fun total => (stream.deliver files).ending.outcome total) := by
  -- on the frames that the stream has left, since each tile takes some of them
  induction hn : stream.remaining using Nat.strong_induction_on generalizing stream total with
  | _ n ih =>
    rw [← finish_step]
    cases hs : stream.next files with
    | finished rest =>
      rw [deliver_of_finished hs]
      simp only [step, hs, finish_finished]
      rfl
    | failed cause rest =>
      rw [deliver_of_failed hs]
      simp only [step, hs, finish_finished]
      rfl
    | fault f rest =>
      rw [deliver_of_fault hs]
      simp only [step, hs, finish_finished]
      rfl
    | tile tile rest =>
      have hrest := ih rest.remaining (hn ▸ next_remaining_lt hs) rest
      rw [deliver_of_tile hs]
      simp only [step, hs, Delivery.cons, List.foldlM_cons]
      cases hadd : task.addTile tile total with
      | error failure => simp [finish_finished]
      | ok total' => simp [hrest total' rfl]

theorem foldlM_addTile (task : SumTask) {d : FileDescriptor} {m : FrameSizes}
    {content : FileContent} {spans : List Span} (hp : d.Planar m)
    (hc : task.used.Matches [m.height, m.width])
    (hsize : content.size < FileView.addressLimit)
    (hspans : ∀ s ∈ spans, d.Held m content s ∧ s.start < s.stop)
    (total : Nat → Binary32) :
    (spans.map (d.tileOn m content)).foldlM (fun total tile => task.addTile tile total)
        (.tabulate [m.height, m.width] total) =
      .ok (.tabulate [m.height, m.width] fun k => spans.foldl
        (fun total s => total + Binary32.sumOver (task.counted d m content k) s.frames)
          (total k)) := by
  induction spans generalizing total with
  | nil => rfl
  | cons s rest ih =>
    obtain ⟨hheld, hlt⟩ := hspans s (List.mem_cons_self ..)
    have hhead := addTile_tileOn hheld hp (hheld.roomy hp hlt hsize) hc total
    have htail := ih fun t ht => hspans t (List.mem_cons_of_mem _ ht)
    rw [List.map_cons, List.foldlM_cons, hhead, ok_bind, htail]
    rfl

end SumTask

/-! ### Tasks of a dataset -/

namespace Dataset

variable {d : Dataset} {fileSize : Nat} {files : FileView} {content : FileContent}
  {s : Span} {applyCorrections : Bool}

def usedCorrections (d : Dataset) (applyCorrections : Bool) : CorrectionSet :=
  if applyCorrections then d.corrections else {}

def taskOn (d : Dataset) (applyCorrections : Bool) (s : Span) : SumTask :=
  ⟨d.partitionOn s, d.geometry.height, d.geometry.width, applyCorrections⟩

def countedPixel (d : Dataset) (applyCorrections : Bool) (content : FileContent)
    (k frame : Nat) : Binary32 :=
  (d.usedCorrections applyCorrections).corrected k
    (.ofNat (d.wholeRun.pixel d.geometry.sizes content frame k))

/-- The sum of a run of frames at a pixel, tile by tile. -/
def sumOfTiles (d : Dataset) (applyCorrections : Bool) (content : FileContent)
    (budget k : Nat) (s : Span) : Binary32 :=
  Binary32.sumOver
    (fun t => Binary32.sumOver (d.countedPixel applyCorrections content k) t.frames)
    (cuts (framesPerTile budget d.geometry.frameBytes) s.start s.stop)

def taskOutcome (d : Dataset) (applyCorrections : Bool) (content : FileContent)
    (budget : Nat) (s : Span) : Except JobError (Grid Binary32) :=
  if s.start = s.stop ∨ s.stop ≤ d.wholeIn content.size then
    .ok (.tabulate [d.geometry.height, d.geometry.width] fun k =>
      d.sumOfTiles applyCorrections content budget k s)
  else .error (.read (.truncated d.path (max s.start (d.wholeIn content.size))))

theorem planar_wholeRun (h : d.geometry.Fits fileSize)
    (hpixels : 0 < d.geometry.height * d.geometry.width) :
    d.wholeRun.Planar d.geometry.sizes := by
  have hobject : (0x100000000 : Nat) ≤ maxObjectSize := by decide
  have hheight := h.height_lt
  have hwidth := h.width_lt
  refine ⟨rfl, h.frameBytes_eq, hpixels, ?_, ?_⟩
  · simp only [Geometry.sizes]
    omega
  · simp only [Geometry.sizes]
    omega

theorem allocate_plane (h : d.geometry.Fits fileSize) :
    Grid.allocate [d.geometry.height, d.geometry.width] Binary32.size Binary32.zero =
      .ok (.tabulate [d.geometry.height, d.geometry.width] fun _ => .zero) := by
  have hobject : (0x100000000 : Nat) * 4 ≤ maxObjectSize := by decide
  have hpixels := h.pixels_lt
  have hheight := h.height_lt
  have hwidth := h.width_lt
  have hroom : Growth.atOnce.Holds Binary32.size
      (volume [d.geometry.height, d.geometry.width]) := by
    rw [Growth.holds_atOnce, volume_plane, Binary32.size]
    omega
  have haddr : Grid.Addressable [d.geometry.height, d.geometry.width] := by
    rw [Grid.Addressable]
    by_cases hh : d.geometry.height = 0 <;> by_cases hw : d.geometry.width = 0 <;>
      simp [volume, hh, hw] <;> omega
  rw [Grid.allocate, if_neg (not_not.2 haddr), Growth.reserve_of_holds hroom,
    Grid.filled_eq_tabulate]
  rfl

theorem start_taskOn (budget : Nat) (h : d.geometry.Fits fileSize) :
    (d.taskOn applyCorrections s).start budget =
      .running ((d.partitionOn s).tiles budget)
        (.tabulate [d.geometry.height, d.geometry.width] fun _ => .zero) := by
  rw [SumTask.start]
  simp only [taskOn, allocate_plane h]

theorem foldlM_addTile_taskOn (h : d.geometry.Fits fileSize)
    (hpixels : 0 < d.geometry.height * d.geometry.width)
    (hc : (d.usedCorrections applyCorrections).Matches [d.geometry.height, d.geometry.width])
    (hsize : content.size < FileView.addressLimit) {runs : List Span}
    (hruns : ∀ t ∈ runs, d.wholeRun.Held d.geometry.sizes content t ∧ t.start < t.stop) :
    (runs.map (d.wholeRun.tileOn d.geometry.sizes content)).foldlM
        (fun total tile => (d.taskOn applyCorrections s).addTile tile total)
        (.tabulate [d.geometry.height, d.geometry.width] fun _ => .zero) =
      .ok (.tabulate [d.geometry.height, d.geometry.width] fun k => Binary32.sumOver
        (fun t => Binary32.sumOver (d.countedPixel applyCorrections content k) t.frames) runs) :=
  SumTask.foldlM_addTile (d.taskOn applyCorrections s) (planar_wholeRun h hpixels) hc hsize
    hruns fun _ => .zero

/-- The task of a run of frames gives their sum if the file holds them, and otherwise
names the first that it does not hold. -/
theorem run_taskOn (budget : Nat) (h : d.geometry.Fits fileSize)
    (hpixels : 0 < d.geometry.height * d.geometry.width)
    (hc : (d.usedCorrections applyCorrections).Matches [d.geometry.height, d.geometry.width])
    (hmap : files.map d.path = .ok content) (hsize : content.size < FileView.addressLimit)
    (hle : s.start ≤ s.stop) (hs : s.stop ≤ d.geometry.frameCount) :
    (d.taskOn applyCorrections s).run files false budget =
      Attempt.ofExcept (d.taskOutcome applyCorrections content budget s) := by
  have hcuts := contiguous_cuts (framesPerTile_pos budget d.geometry.frameBytes) hle
  rw [SumTask.run, start_taskOn budget h, SumTask.finish_running, taskOutcome]
  by_cases hwhole : s.start = s.stop ∨ s.stop ≤ d.wholeIn content.size
  · have hfit : ∀ t ∈ cuts (framesPerTile budget d.geometry.frameBytes) s.start s.stop,
        t.stop ≤ d.wholeIn content.size := by
      intro t ht
      have hbounds := hcuts.bounds ht
      have hlt := (mem_cuts ht).1
      omega
    have hadd := foldlM_addTile_taskOn (s := s) h hpixels hc hsize fun t ht =>
      held_of_mem_cuts h hle hs ht (hfit t ht)
    rw [if_pos hwhole, deliver_partitionOn h hle hs hmap hwhole]
    simp only [hadd, ok_bind]
    rfl
  · have hlt : s.start < s.stop := by omega
    have hadd := foldlM_addTile_taskOn (s := s) h hpixels hc hsize fun t ht =>
      held_of_mem_takeWhile_cuts budget h hle hs ht
    rw [if_neg hwhole, deliver_partitionOn_of_truncated h hlt hs hmap (by omega)]
    simp only [hadd, ok_bind]
    rfl

end Dataset

end DetectorScan
