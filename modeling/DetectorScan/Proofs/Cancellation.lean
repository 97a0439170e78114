import DetectorScan.Proofs.Opening
import DetectorScan.Proofs.SharedFlag
import DetectorScan.Proofs.ShortenedFiles

/-!
# Jobs that are stopped

A job on a dataset takes a flag that is written while it runs. No task of it ends in a fault,
whatever the file holds by then; a task whose flag is set from the start is stopped by its
first tile, and with it the job.
-/

namespace DetectorScan

open Attempt FileDescriptor TileStream

/-! ### Tasks on any file -/

namespace SumTask

variable {task : SumTask} {d : FileDescriptor} {m : FrameSizes} {content : FileContent}
  {s : Span}

theorem faultless_framesOf_tileOn (h : d.Held m content s) (hp : d.Planar m)
    (hroom : d.Roomy m s) : (task.framesOf (d.tileOn m content s)).Faultless := by
  obtain ⟨stack, hstack, _⟩ := h.reals_tileOn hp hroom
  simp only [framesOf, hstack, widen, ok_bind]
  split
  · exact faultless_ofExcept _
  · exact faultless_ok _

/-- Tiles whose frames are in the file lead to a total or to a refused correction. -/
theorem faultless_foldlM_addTile (task : SumTask) (hp : d.Planar m)
    (hsize : content.size < FileView.addressLimit) {runs : List Span}
    (hruns : ∀ s ∈ runs, d.Held m content s ∧ s.start < s.stop) {total : Grid Binary32}
    (htotal : total.shape = [m.height, m.width]) :
    ((runs.map (d.tileOn m content)).foldlM (fun total tile => task.addTile tile total)
      total).Faultless := by
  induction runs generalizing total with
  | nil => exact faultless_ok total
  | cons s rest ih =>
    obtain ⟨⟨hheld, hlt⟩, hrest⟩ := List.forall_mem_cons.1 hruns
    have hroom := hheld.roomy hp hlt hsize
    rw [List.map_cons, List.foldlM_cons, addTile_tileOn_eq task content s hp htotal]
    refine ((faultless_framesOf_tileOn hheld hp hroom).bind fun frames _ =>
      faultless_ok _).bind fun next hnext => ?_
    -- The next total has the shape of the last, so that the next tile is added the same way.
    obtain ⟨frames, _, hframes⟩ := bind_eq_ok.1 hnext
    cases hframes
    exact ih hrest htotal

end SumTask

/-- What becomes of the task of a run of frames that is stopped from the start. A task
without frames has nothing to stop at. -/
def stoppedOutcome (shape : List Nat) (s : Span) : Except JobError (Grid Binary32) :=
  if s.start < s.stop then .error .cancelled else .ok (.filled shape .zero)

namespace Dataset

variable {d : Dataset} {fileSize : Nat} {files : FileView} {s : Span} {budget : Nat}
  {applyCorrections : Bool}

theorem next_partitionOn_cases (files : FileView) (budget : Nat) (h : d.geometry.Fits fileSize)
    (hlt : s.start < s.stop) (hs : s.stop ≤ d.geometry.frameCount) :
    (∃ tile rest, ((d.partitionOn s).tiles budget).next files = .tile tile rest) ∨
      ∃ cause rest, ((d.partitionOn s).tiles budget).next files = .failed cause rest := by
  cases hmap : files.map d.path with
  | error e => exact .inr ⟨_, _, next_partitionOn_of_error budget h hlt hs hmap⟩
  | ok content =>
    have hsized := sized_runOn h hs
    have hnext : ((d.partitionOn s).tiles budget).next files =
        cut budget ⟨d.runOn s, content, s.start, framesPerTile budget d.geometry.frameBytes,
          framesPerTile_pos budget d.geometry.frameBytes⟩ [] := by
      rw [tiles_partitionOn d budget hs, if_pos hlt]
      simp only [idle, next, openNext, ofDescriptor_eq hsized hmap]
      exact if_pos hlt
    rw [hnext]
    by_cases hfit : s.start + OpenFile.nextCount ⟨d.runOn s, content, s.start,
        framesPerTile budget d.geometry.frameBytes,
        framesPerTile_pos budget d.geometry.frameBytes⟩ ≤
          (d.runOn s).limit d.geometry.sizes content.size
    · exact .inl ⟨_, _, cut_of_fits budget [] hsized (Nat.zero_le _) hlt hfit⟩
    · exact .inr ⟨_, _, cut_of_not_fits budget [] hsized (Nat.zero_le _) hlt hfit⟩

/-- A partition delivers tiles of frames that its file holds, and then it is at its end or has
met an error. -/
theorem deliver_partitionOn_cases (budget : Nat) (h : d.geometry.Fits fileSize)
    (hle : s.start ≤ s.stop) (hs : s.stop ≤ d.geometry.frameCount)
    (haddressable : files.Addressable) :
    ∃ (content : FileContent) (runs : List Span), content.size < FileView.addressLimit ∧
      (∀ t ∈ runs, d.wholeRun.Held d.geometry.sizes content t ∧ t.start < t.stop) ∧
      (((d.partitionOn s).tiles budget).deliver files).tiles =
        runs.map (d.wholeRun.tileOn d.geometry.sizes content) ∧
      ∀ f, (((d.partitionOn s).tiles budget).deliver files).ending ≠ .fault f := by
  have hcuts := contiguous_cuts (framesPerTile_pos budget d.geometry.frameBytes) hle
  obtain hempty | hlt := hle.eq_or_lt
  · rw [deliver_partitionOn_of_le hempty.ge hs]
    exact ⟨.ofBytes [], [], by decide, nofun, rfl, nofun⟩
  cases hmap : files.map d.path with
  | error e =>
    rw [deliver_of_failed (next_partitionOn_of_error budget h hlt hs hmap)]
    exact ⟨.ofBytes [], [], by decide, nofun, rfl, nofun⟩
  | ok content =>
    by_cases hwhole : s.stop ≤ d.wholeIn content.size
    · rw [deliver_partitionOn h hle hs hmap (.inr hwhole)]
      exact ⟨content, _, haddressable _ _ hmap, fun t ht =>
        held_of_mem_cuts h hle hs ht ((hcuts.bounds ht).2.2.trans hwhole), rfl, nofun⟩
    · rw [deliver_partitionOn_of_truncated h hlt hs hmap (Nat.lt_of_not_le hwhole)]
      exact ⟨content, _, haddressable _ _ hmap, fun t ht =>
        held_of_mem_takeWhile_cuts budget h hle hs ht, rfl, nofun⟩

theorem faultless_run_taskOn (budget : Nat) (h : d.geometry.Fits fileSize)
    (hpixels : 0 < d.geometry.height * d.geometry.width) (hle : s.start ≤ s.stop)
    (hs : s.stop ≤ d.geometry.frameCount)
    (haddressable : files.Addressable) :
    ((d.taskOn applyCorrections s).run files false budget).Faultless := by
  obtain ⟨content, runs, hcontent, hruns, htiles, hending⟩ :=
    deliver_partitionOn_cases budget h hle hs haddressable
  rw [SumTask.run, start_taskOn budget h, SumTask.finish_running, htiles]
  refine (SumTask.faultless_foldlM_addTile _ (planar_wholeRun h hpixels) hcontent hruns
    rfl).bind fun total _ => ?_
  cases hend : (((d.partitionOn s).tiles budget).deliver files).ending with
  | finished => exact faultless_ok total
  | failed cause => exact faultless_refuse _
  | fault f => exact absurd hend (hending f)

theorem run_taskOn_cancelled (budget : Nat) (h : d.geometry.Fits fileSize)
    (hs : s.stop ≤ d.geometry.frameCount) :
    (d.taskOn applyCorrections s).run files true budget =
      Attempt.ofExcept (stoppedOutcome [d.geometry.height, d.geometry.width] s) := by
  rw [SumTask.run, start_taskOn budget h, ← SumTask.finish_step, stoppedOutcome]
  by_cases hlt : s.start < s.stop
  · rw [if_pos hlt]
    obtain ⟨tile, rest, hnext⟩ | ⟨cause, rest, hnext⟩ :=
      next_partitionOn_cases files budget h hlt hs
    · simp only [SumTask.step, hnext, if_true, SumTask.finish_finished, ofExcept_error]
    · simp only [SumTask.step, hnext, if_true, SumTask.finish_finished, ofExcept_error]
  · have hnext : ((d.partitionOn s).tiles budget).next files = .finished (idle budget []) := by
      rw [tiles_partitionOn d budget hs, if_neg hlt]
      rfl
    rw [if_neg hlt, Grid.filled_eq_tabulate]
    simp only [SumTask.step, hnext, SumTask.finish_finished, ofExcept_ok]

end Dataset

/-! ### Jobs of a dataset -/

theorem mergeOutcomes_stoppedOutcome (shape : List Nat) {start stop : Nat} {spans : List Span}
    (h : Contiguous start spans stop) (hlt : start < stop) (total : Nat → Binary32) :
    mergeOutcomes (.tabulate shape total) (spans.map (stoppedOutcome shape)) =
      .error .cancelled := by
  induction spans generalizing start total with
  | nil => exact absurd h (Nat.ne_of_lt hlt)
  | cons s rest ih =>
    obtain ⟨rfl, hle, hrest⟩ := h
    rw [List.map_cons, stoppedOutcome, mergeOutcomes]
    by_cases hs : s.start < s.stop
    · rw [if_pos hs]
      rfl
    · rw [if_neg hs, ok_bind, Grid.filled_eq_tabulate, mergeResult_tabulate]
      exact ih hrest (by omega) _

namespace SumJob

/-- What a task comes to whose flag is set before it starts. -/
def StopsAtOnce (task : SumTask) (outcome : Attempt JobError (Grid Binary32)) : Prop :=
  ∃ span, task.partition.frameSpan = .ok span ∧
    outcome = Attempt.ofExcept (stoppedOutcome [task.height, task.width] span)

/-- How a job answers to a flag that is written while it runs, where a pool runs its tasks. The
options are those of a run without a flag. -/
structure Stoppable (job : SumJob) (tasks : List SumTask) (files : FileView) (pool : ThreadPool)
    (options : RunOptions) : Prop where
  /-- By itself, no task ends in a fault. -/
  faultless : ∀ task ∈ tasks, (task.runIn files options.context).Faultless
  /-- Whatever is written, each task comes to what it comes to by itself or is cancelled. -/
  kept : ∀ flag events outcomes,
    (Pool.after tasks files (options.withFlag flag) (Event.moves flag events)).outcomes? =
        some outcomes →
      List.Forall₂ (KeptOrCancelled files options.context) tasks outcomes
  /-- A total is that of all tasks. -/
  whole : ∀ flag events total,
    job.runBy files (options.withFlag flag) (Event.moves flag events) = some (.ok total) →
      job.run files pool options = .ok total
  /-- A flag that is never set makes no difference. -/
  unset : ∀ events outcomes, .write true ∉ events →
    (Pool.after tasks files (options.withFlag false) (Event.moves false events)).outcomes? =
        some outcomes →
      (outcomes = tasks.map fun task => task.runIn files options.context) ∧
        job.runBy files (options.withFlag false) (Event.moves false events) =
          some (job.run files pool options)
  /-- A flag that is set from the start stops every task with frames, and the job. -/
  set : ∀ events outcomes, .write false ∉ events →
    (Pool.after tasks files (options.withFlag true) (Event.moves true events)).outcomes? =
        some outcomes →
      List.Forall₂ StopsAtOnce tasks outcomes ∧
        job.runBy files (options.withFlag true) (Event.moves true events) =
          some (Attempt.refuse .cancelled)
  /-- So does a flag that is set and that nobody writes. -/
  stopped : job.run files pool (options.withFlag true) = Attempt.refuse .cancelled

end SumJob

namespace Dataset

variable {d : Dataset} {fileSize : Nat} {files : FileView} {pool : ThreadPool}
  {options : RunOptions} {applyCorrections : Bool}

theorem runIn_tasksOn_cancelled (applyCorrections : Bool) (files : FileView)
    (options : RunOptions) (h : d.geometry.Fits fileSize) :
    ((d.tasksOn applyCorrections).map fun task =>
        task.runIn files (options.withFlag true).context) =
      d.plannedSpans.map fun s =>
        Attempt.ofExcept (stoppedOutcome [d.geometry.height, d.geometry.width] s) := by
  rw [tasksOn, List.map_map]
  refine List.map_congr_left fun s hs => ?_
  exact run_taskOn_cancelled _ h (d.contiguous_plannedSpans.bounds hs).2.2

theorem resultOf_cancelled (applyCorrections : Bool) (files : FileView) (options : RunOptions)
    (h : d.geometry.Fits fileSize) (hcount : 0 < d.geometry.frameCount) :
    (d.jobOn applyCorrections).resultOf ((d.tasksOn applyCorrections).map fun task =>
        task.runIn files (options.withFlag true).context) =
      Attempt.refuse .cancelled := by
  rw [runIn_tasksOn_cancelled applyCorrections files options h, resultOf_ofExcept h,
    mergeOutcomes_stoppedOutcome _ d.contiguous_plannedSpans hcount, ofExcept_error]

theorem stoppable_jobOn (h : d.geometry.Fits fileSize)
    (hpixels : 0 < d.geometry.height * d.geometry.width) (hcount : 0 < d.geometry.frameCount)
    (haddressable : files.Addressable)
    (htasks : (d.jobOn applyCorrections).tasks = .ok (d.tasksOn applyCorrections))
    (hpool : pool.KeepsOrder) (hserves : pool.Serves options.parallelism)
    (hfree : options.cancel = none) :
    (d.jobOn applyCorrections).Stoppable (d.tasksOn applyCorrections) files pool options := by
  have hflag := RunOptions.isCancelled_context hfree
  have hfaultless : ∀ task ∈ d.tasksOn applyCorrections,
      (task.runIn files options.context).Faultless := by
    refine forall_mem_tasksOn fun s hle hs => ?_
    rw [SumTask.runIn, hflag]
    exact faultless_run_taskOn _ h hpixels hle hs haddressable
  have hstops : ∀ task ∈ d.tasksOn applyCorrections,
      (task.runIn files (options.withFlag true).context).Faultless := by
    refine forall_mem_tasksOn fun s _ hs => ?_
    have hrun : (d.taskOn applyCorrections s).runIn files (options.withFlag true).context =
        Attempt.ofExcept (stoppedOutcome [d.geometry.height, d.geometry.width] s) :=
      run_taskOn_cancelled _ h hs
    rw [hrun]
    exact faultless_ofExcept _
  have hcancelled := resultOf_cancelled applyCorrections files options h hcount
  refine ⟨hfaultless, fun _ _ _ => keptOrCancelled_of_outcomes hfree,
    fun _ _ _ => SumJob.run_of_runBy_eq_ok hpool hserves hfree htasks,
    fun events outcomes hevents hout => ?_, fun events outcomes hevents hout => ?_, ?_⟩
  · have hall := outcomes_of_constant_flag (Event.cancelled_of_mem_moves hevents) hout
    simp only [runIn_withFlag_false hfree] at hall
    refine ⟨hall, ?_⟩
    rw [SumJob.runBy_eq htasks, hout, SumJob.run_eq hpool hserves htasks hfaultless, hall]
    rfl
  · have hall := outcomes_of_constant_flag (Event.cancelled_of_mem_moves hevents) hout
    constructor
    · rw [hall, runIn_tasksOn_cancelled applyCorrections files options h, tasksOn,
        List.forall₂_map_left_iff, List.forall₂_map_right_iff, List.forall₂_same]
      intro s hs
      obtain ⟨_, hle, hstop⟩ := d.contiguous_plannedSpans.bounds hs
      exact ⟨s, frameSpan_taskOn applyCorrections h hle hstop, rfl⟩
    · rw [SumJob.runBy_eq htasks, hout, hall]
      exact congrArg some hcancelled
  · have hrun : (d.jobOn applyCorrections).run files pool (options.withFlag true) = _ :=
      SumJob.run_eq hpool hserves htasks hstops
    exact hrun.trans hcancelled

end Dataset

/-- A flag may be set at any time while workers take the steps of a job in any order: a task
comes to what it comes to by itself or is cancelled, and a job that gives a total gives that of
all tasks. A run comes to an end when each task has been given a step for each frame and one
more. The file may be another one than at the time of opening. -/
theorem stopped_jobs_give_no_partial_sum {source : CorrectionSource} {files : FileView}
    {workers : Nat} {params : DatasetParams} {d : Dataset}
    (h : Dataset.load source files workers params = .ok d)
    (hpixels : 0 < d.geometry.height * d.geometry.width) {later : FileView}
    (haddressable : later.Addressable) (threads : Nat) (override : Option Nat)
    (applyCorrections : Bool) :
    (d.configured threads override).HasJob applyCorrections fun job tasks =>
      (∀ options : RunOptions, options.cancel = none → ∀ pool : ThreadPool, pool.KeepsOrder →
        pool.Serves options.parallelism → job.Stoppable tasks later pool options) ∧
      (∀ (options : RunOptions) (pool : ThreadPool) (cause : PoolError),
        1 < options.parallelism → pool.start options.parallelism = .error cause →
          job.run later pool options = Attempt.refuse (.threadPool cause)) ∧
      ∀ (options : RunOptions) flag events,
        (∀ i < tasks.length, d.geometry.frameCount < events.count (Event.step i)) →
          ∃ result, job.runBy later (options.withFlag flag) (Event.moves flag events) =
            some result := by
  obtain ⟨_, _, hopened⟩ := Dataset.opened_of_load h
  have hother := hopened.configured threads override
  refine hother.hasJob fun htasks => ⟨?_, ?_, ?_⟩
  · intro options hfree pool hpool hserves
    exact Dataset.stoppable_jobOn hother.fits hpixels hother.frameCount_pos haddressable htasks
      hpool hserves hfree
  · intro options pool cause hmany hstart
    exact SumJob.run_of_start_error htasks hmany hstart
  · intro options flag events hevents
    refine SumJob.exists_runBy htasks (Dataset.forall_mem_tasksOn fun s _ hs =>
      Dataset.remaining_start_taskOn_le _ hother.fits hs) fun i hi => ?_
    rw [Event.length_seen_moves]
    exact hevents i hi

theorem small_recording_is_stopped_in_thirds :
    Dataset.load Mrc.read SmallRecording.files 1 ⟨SmallRecording.path, [2]⟩ =
        .ok SmallRecording.dataset ∧
      0 < SmallRecording.dataset.geometry.height * SmallRecording.dataset.geometry.width ∧
      SmallRecording.files.Addressable ∧
      ∃ job tasks, SumJob.ofDataset (SmallRecording.dataset.configured 1 (some 3)) true = .ok job ∧
        job.tasks = .ok tasks ∧ tasks.length = 3 ∧
        job.run SmallRecording.files .inline
            (RunOptions.withFlag { parallelism := 2 } true) = Attempt.refuse .cancelled ∧
        ∃ result, job.runBy SmallRecording.files (({} : RunOptions).withFlag false)
          (Event.moves false [.step 2, .step 0, .step 1, .step 2, .step 0, .step 1, .write true,
            .step 1, .step 0, .step 2]) = some result := by
  have hpixels : 0 <
      SmallRecording.dataset.geometry.height * SmallRecording.dataset.geometry.width := by
    decide
  have hall := stopped_jobs_give_no_partial_sum SmallRecording.load hpixels
    SmallRecording.addressable 1 (some 3) true
  obtain ⟨job, tasks, hjob, htasks, hlength, hstoppable, _, hends⟩ := hall.exists_job
    (by decide) (by decide)
  have hstopped := (hstoppable { parallelism := 2 } rfl .inline ThreadPool.keepsOrder_inline
    (.inr rfl)).stopped
  refine ⟨SmallRecording.load, hpixels, SmallRecording.addressable, job, tasks, hjob, htasks,
    hlength, hstopped, hends {} false _ fun i hi => ?_⟩
  rw [hlength] at hi
  revert i
  decide

/-- With more partitions than there can be room for there is no job that could be stopped. -/
theorem too_many_partitions_cannot_be_stopped :
    Dataset.load Mrc.read SmallRecording.files 1 ⟨SmallRecording.path, [2]⟩ =
        .ok SmallRecording.dataset ∧
      0 < SmallRecording.dataset.geometry.height * SmallRecording.dataset.geometry.width ∧
      SmallRecording.files.map SmallRecording.dataset.path = .ok SmallRecording.content ∧
      SmallRecording.files.Addressable ∧
      (SumJob.ofDataset (SmallRecording.dataset.withPartitionCount (2 ^ 62)) false >>= fun job =>
        job.run SmallRecording.files .inline (({} : RunOptions).withFlag true)) =
          .error (.fault .overflow) := by
  obtain ⟨_, _, hopened⟩ := Dataset.opened_of_load SmallRecording.load
  refine ⟨SmallRecording.load, by decide, SmallRecording.map_content, SmallRecording.addressable,
    ?_⟩
  rw [Dataset.configured_withPartitionCount, (hopened.configured ..).ofDataset_eq,
    if_pos (by decide), error_bind]

end DetectorScan
