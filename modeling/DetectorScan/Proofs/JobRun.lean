import DetectorScan.Proofs.TaskRun

/-!
# What a job gives

The tasks of a job on a dataset are those of the planned runs of frames. Merged in order,
their totals are the total of the job if the file holds all frames; otherwise the first of
their errors is, and it names the first frame that the file does not hold.
-/

namespace DetectorScan

theorem mergeResult_tabulate (shape : List Nat) (total accumulator : Nat → Binary32) :
    mergeResult (.tabulate shape total) (.tabulate shape accumulator) =
      (.tabulate shape fun k => accumulator k + total k, .ok ()) := by
  have hshape : (Grid.tabulate shape accumulator).shape = (Grid.tabulate shape total).shape := rfl
  rw [mergeResult, dif_pos hshape, Grid.zipWith_tabulate]

namespace Dataset

variable {d : Dataset} {fileSize : Nat} {files : FileView} {content : FileContent}
  {options : RunOptions} {applyCorrections : Bool} {spans : List Span}

def jobOn (d : Dataset) (applyCorrections : Bool) : SumJob :=
  ⟨d.plannedSpans.map d.partitionOn, d.geometry.height, d.geometry.width, applyCorrections⟩

/-- There are more tasks than there can be room for. -/
def TooManyTasks (d : Dataset) : Prop :=
  maxObjectSize < max d.numPartitions 1 * SumTask.size

instance (d : Dataset) : Decidable d.TooManyTasks :=
  inferInstanceAs (Decidable (_ < _))

def tasksOn (d : Dataset) (applyCorrections : Bool) : List SumTask :=
  d.plannedSpans.map (d.taskOn applyCorrections)

theorem tasks_jobOn (d : Dataset) (applyCorrections : Bool) :
    (d.jobOn applyCorrections).tasks =
      if d.TooManyTasks then .error .overflow else .ok (d.tasksOn applyCorrections) := by
  have hlength : (d.jobOn applyCorrections).partitions.length = max d.numPartitions 1 := by
    rw [jobOn, List.length_map, length_plannedSpans]
  have hmap : (d.jobOn applyCorrections).partitions.map (d.jobOn applyCorrections).taskOf =
      d.tasksOn applyCorrections := by
    rw [jobOn, List.map_map]
    rfl
  rw [SumJob.tasks, hlength, hmap]
  split
  · next hmany =>
    rw [Growth.reserve_of_not_holds (mt Growth.holds_atOnce.1 (Nat.not_le.2 hmany))]
    rfl
  · next hfew =>
    rw [Growth.reserve_of_holds (Growth.holds_atOnce.2 (Nat.le_of_not_lt hfew))]
    rfl

theorem forall_mem_tasksOn {P : SumTask → Prop}
    (h : ∀ s : Span, s.start ≤ s.stop → s.stop ≤ d.geometry.frameCount →
      P (d.taskOn applyCorrections s)) : ∀ task ∈ d.tasksOn applyCorrections, P task := by
  intro task htask
  obtain ⟨s, hs, rfl⟩ := List.mem_map.1 htask
  obtain ⟨_, hle, hstop⟩ := d.contiguous_plannedSpans.bounds hs
  exact h s hle hstop

theorem Opened.ofDataset_eq {params : DatasetParams} (h : d.Opened params content)
    (applyCorrections : Bool) :
    SumJob.ofDataset d applyCorrections =
      if d.TooManyPartitions then .error (.fault .overflow)
      else .ok (d.jobOn applyCorrections) := by
  have hsignal : d.info.shape.signal = .ok ⟨d.geometry.signal, 2⟩ := by
    rw [h.info_eq]
    exact Shape.signal_ofParts params.scan d.geometry.signal
  rw [SumJob.ofDataset, SumJob.ofPartitions, hsignal, partitions_eq h.fits]
  split
  · rfl
  · rfl

/-- There is a job on a dataset where there can be room for its partitions, and it can be run
where there can be room for their tasks. Then the job and its tasks are as `P` says. -/
def HasJob (d : Dataset) (applyCorrections : Bool) (P : SumJob → List SumTask → Prop) : Prop :=
  if d.TooManyPartitions then SumJob.ofDataset d applyCorrections = .error (.fault .overflow)
  else ∃ job, SumJob.ofDataset d applyCorrections = .ok job ∧
    if d.TooManyTasks then
      job.tasks = .error .overflow ∧
        ∀ files pool options, job.run files pool options = .error (.fault .overflow)
    else ∃ tasks, job.tasks = .ok tasks ∧ tasks.length = max d.numPartitions 1 ∧ P job tasks

theorem Opened.hasJob {params : DatasetParams} {P : SumJob → List SumTask → Prop}
    (h : d.Opened params content)
    (hP : (d.jobOn applyCorrections).tasks = .ok (d.tasksOn applyCorrections) →
      P (d.jobOn applyCorrections) (d.tasksOn applyCorrections)) :
    d.HasJob applyCorrections P := by
  have hjob := h.ofDataset_eq applyCorrections
  have htasks := d.tasks_jobOn applyCorrections
  unfold HasJob
  split
  · next hmany => rw [hjob, if_pos hmany]
  · next hfew =>
    rw [if_neg hfew] at hjob
    refine ⟨_, hjob, ?_⟩
    split
    · next hmany =>
      rw [if_pos hmany] at htasks
      exact ⟨htasks, fun files pool options => SumJob.run_of_tasks_error htasks⟩
    · next hroom =>
      rw [if_neg hroom] at htasks
      refine ⟨_, htasks, ?_, hP htasks⟩
      rw [tasksOn, List.length_map, length_plannedSpans]

theorem HasJob.exists_job {P : SumJob → List SumTask → Prop} (h : d.HasJob applyCorrections P)
    (hpartitions : ¬ d.TooManyPartitions) (htasks : ¬ d.TooManyTasks) :
    ∃ job tasks, SumJob.ofDataset d applyCorrections = .ok job ∧ job.tasks = .ok tasks ∧
      tasks.length = max d.numPartitions 1 ∧ P job tasks := by
  rw [HasJob, if_neg hpartitions] at h
  obtain ⟨job, hjob, hrest⟩ := h
  rw [if_neg htasks] at hrest
  obtain ⟨tasks, hall⟩ := hrest
  exact ⟨job, tasks, hjob, hall⟩

theorem remaining_start_taskOn_le {s : Span} (budget : Nat) (h : d.geometry.Fits fileSize)
    (hs : s.stop ≤ d.geometry.frameCount) :
    SumTask.remaining ((d.taskOn applyCorrections s).start budget) ≤ d.geometry.frameCount := by
  rw [start_taskOn budget h, SumTask.remaining, tiles_partitionOn d budget hs]
  split
  · simp only [TileStream.idle, TileStream.remaining, TileStream.pendingFrames, runOn]
    omega
  · exact Nat.zero_le _

/-- Merging the outcomes of runs of frames, one behind the other, counts them all or ends
with the first frame that the file does not hold. -/
theorem mergeOutcomes_taskOutcome (d : Dataset) (applyCorrections : Bool)
    (content : FileContent) (budget : Nat) {start stop : Nat}
    (h : Contiguous start spans stop) (hstart : start ≤ d.wholeIn content.size)
    (total : Nat → Binary32) :
    mergeOutcomes (.tabulate [d.geometry.height, d.geometry.width] total)
        (spans.map (d.taskOutcome applyCorrections content budget)) =
      if stop ≤ d.wholeIn content.size then
        .ok (.tabulate [d.geometry.height, d.geometry.width] fun k => spans.foldl
          (fun total s => total + d.sumOfTiles applyCorrections content budget k s) (total k))
      else .error (.read (.truncated d.path (d.wholeIn content.size))) := by
  induction spans generalizing start total with
  | nil =>
    cases h
    rw [if_pos hstart]
    rfl
  | cons s rest ih =>
    obtain ⟨rfl, hle, hrest⟩ := h
    have hlast := hrest.le
    rw [List.map_cons, taskOutcome, mergeOutcomes]
    by_cases hwhole : s.start = s.stop ∨ s.stop ≤ d.wholeIn content.size
    · rw [if_pos hwhole, ok_bind, mergeResult_tabulate]
      exact (ih hrest (by omega) _).trans (by rfl)
    · -- all runs before were whole, so the limit lies in this one
      rw [if_neg hwhole, if_neg (by omega), Nat.max_eq_right hstart]
      rfl

/-- The total of a job, partition by partition and tile by tile, or the first frame that
the file does not hold. -/
def jobOutcome (d : Dataset) (applyCorrections : Bool) (content : FileContent)
    (budget : Nat) : Except JobError (Grid Binary32) :=
  if d.geometry.frameCount ≤ d.wholeIn content.size then
    .ok (.tabulate [d.geometry.height, d.geometry.width] fun k =>
      Binary32.sumOver (d.sumOfTiles applyCorrections content budget k) d.plannedSpans)
  else .error (.read (.truncated d.path (d.wholeIn content.size)))

theorem runIn_tasksOn (h : d.geometry.Fits fileSize)
    (hpixels : 0 < d.geometry.height * d.geometry.width)
    (hc : (d.usedCorrections applyCorrections).Matches [d.geometry.height, d.geometry.width])
    (hmap : files.map d.path = .ok content) (hsize : content.size < FileView.addressLimit)
    (hflag : options.context.isCancelled = false) :
    ((d.tasksOn applyCorrections).map fun task => task.runIn files options.context) =
      d.plannedSpans.map fun s => Attempt.ofExcept
        (d.taskOutcome applyCorrections content options.context.tileBytes s) := by
  rw [tasksOn, List.map_map]
  refine List.map_congr_left fun s hs => ?_
  obtain ⟨_, hle, hstop⟩ := d.contiguous_plannedSpans.bounds hs
  rw [Function.comp_apply, SumTask.runIn, hflag]
  exact run_taskOn options.context.tileBytes h hpixels hc hmap hsize hle hstop

theorem resultOf_ofExcept (h : d.geometry.Fits fileSize)
    (outcome : Span → Except JobError (Grid Binary32)) :
    (d.jobOn applyCorrections).resultOf
        (d.plannedSpans.map fun s => Attempt.ofExcept (outcome s)) =
      Attempt.ofExcept (mergeOutcomes
        (.tabulate [d.geometry.height, d.geometry.width] fun _ => .zero)
        (d.plannedSpans.map outcome)) := by
  have hsettled : (d.plannedSpans.map fun s =>
      (Attempt.ofExcept (outcome s) : Attempt JobError (Grid Binary32))).mapM Attempt.settle =
        .ok (d.plannedSpans.map outcome) := by
    rw [List.mapM_map]
    exact mapM_eq_ok fun s _ => Attempt.settle_ofExcept _
  have hallocate : Grid.allocate (d.jobOn applyCorrections).resultShape Binary32.size
      Binary32.zero = .ok (.tabulate [d.geometry.height, d.geometry.width] fun _ => .zero) :=
    allocate_plane h
  rw [SumJob.resultOf, hsettled, hallocate]
  rfl

/-- However it is run, a job on a dataset gives its total or the first frame that is missing. -/
theorem yields_jobOn (h : d.geometry.Fits fileSize)
    (hpixels : 0 < d.geometry.height * d.geometry.width)
    (hc : (d.usedCorrections applyCorrections).Matches [d.geometry.height, d.geometry.width])
    (hmap : files.map d.path = .ok content) (hsize : content.size < FileView.addressLimit)
    (hflag : options.context.isCancelled = false)
    (htasks : (d.jobOn applyCorrections).tasks = .ok (d.tasksOn applyCorrections)) :
    (d.jobOn applyCorrections).Yields (d.tasksOn applyCorrections) d.geometry.frameCount files
      options (Attempt.ofExcept
        (d.jobOutcome applyCorrections content options.context.tileBytes)) := by
  have hresult : (d.jobOn applyCorrections).resultOf _ = _ := resultOf_ofExcept h
    (d.taskOutcome applyCorrections content options.context.tileBytes)
  have hmerge := d.mergeOutcomes_taskOutcome applyCorrections content options.context.tileBytes
    d.contiguous_plannedSpans (Nat.zero_le _) fun _ => .zero
  rw [← runIn_tasksOn h hpixels hc hmap hsize hflag, hmerge] at hresult
  have houtcome : Attempt.ofExcept
      (d.jobOutcome applyCorrections content options.context.tileBytes) = _ := hresult.symm
  rw [houtcome]
  refine SumJob.yields_resultOf htasks hflag (forall_mem_tasksOn fun s hle hs => ?_)
    (forall_mem_tasksOn fun s _ hs => remaining_start_taskOn_le _ h hs)
  rw [SumTask.runIn, hflag, run_taskOn _ h hpixels hc hmap hsize hle hs]
  exact Attempt.faultless_ofExcept _

end Dataset

end DetectorScan
