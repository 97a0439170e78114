import DetectorScan.Proofs.JobRun

/-!
# Files that were cut short

After a dataset was opened, its file may be replaced by one that holds fewer frames. A task
then fails exactly when one of its frames is not there, and names the first such frame; the
job fails with the first frame of all that is not there.
-/

namespace DetectorScan

/-- What the task of a run of frames comes to on a file that holds `whole` frames. -/
def EndsBy (path : Path) (whole : Nat) (span : Span)
    (outcome : Attempt JobError (Grid Binary32)) : Prop :=
  if span.start = span.stop ∨ span.stop ≤ whole then ∃ total, outcome = .ok total
  else outcome = Attempt.refuse (.read (.truncated path (max span.start whole)))

theorem forall₂_of_mapM_eq_ok {ε α β : Type} {f : α → Except ε β} {xs : List α} {ys : List β}
    (h : xs.mapM f = .ok ys) : List.Forall₂ (fun x y => f x = .ok y) xs ys := by
  induction xs generalizing ys with
  | nil =>
    cases h
    exact .nil
  | cons x xs ih =>
    rw [List.mapM_cons] at h
    obtain ⟨y, hy, h⟩ := bind_eq_ok.1 h
    obtain ⟨rest, hrest, h⟩ := bind_eq_ok.1 h
    cases h
    exact .cons hy (ih hrest)

theorem runTasks_settle {files : FileView} {pool : ThreadPool} {options : RunOptions}
    {tasks : List SumTask} (hpool : pool.KeepsOrder) (hserves : pool.Serves options.parallelism)
    (h : ∀ task ∈ tasks, (task.runIn files options.context).Faultless) :
    ∃ outcomes, runTasks files pool tasks options = .ok outcomes ∧
      List.Forall₂ (fun task outcome =>
        (task.runIn files options.context).settle = .ok outcome) tasks outcomes := by
  obtain ⟨outcomes, hsettled⟩ := exists_mapM_eq_ok fun task htask => (h task htask).exists_settle
  exact ⟨outcomes, runTasks_eq_ok hpool hserves hsettled, forall₂_of_mapM_eq_ok hsettled⟩

namespace Dataset

variable {d : Dataset} {fileSize : Nat} {files : FileView} {content : FileContent}
  {options : RunOptions} {s : Span}

theorem matches_empty (shape : List Nat) : ({} : CorrectionSet).Matches shape :=
  ⟨nofun, nofun⟩

theorem frameSpan_taskOn (applyCorrections : Bool) (h : d.geometry.Fits fileSize)
    (hle : s.start ≤ s.stop) (hs : s.stop ≤ d.geometry.frameCount) :
    (d.taskOn applyCorrections s).partition.frameSpan = .ok s :=
  Slice.frameSpan_frames d.geometry.signal hle (hs.trans_lt h.frameCount_lt)

theorem endsBy_taskOutcome (d : Dataset) (applyCorrections : Bool) (budget : Nat) (s : Span) :
    EndsBy d.path (d.wholeIn content.size) s
      (Attempt.ofExcept (d.taskOutcome applyCorrections content budget s)) := by
  unfold EndsBy taskOutcome
  split
  · exact ⟨_, rfl⟩
  · rfl

end Dataset

/-- A task fails exactly when the file does not hold its frames, and the job exactly when
it does not hold all of them. Either names the first frame that is missing, however the
frames are cut into partitions and tiles, whether one thread runs the tasks or a pool, and in
whatever order workers take their steps. -/
theorem tasks_fail_where_the_file_ends {source : CorrectionSource} {files : FileView}
    {workers : Nat} {params : DatasetParams} {d : Dataset}
    (h : Dataset.load source files workers params = .ok d)
    (hpixels : 0 < d.geometry.height * d.geometry.width)
    {later : FileView} {content : FileContent}
    (hmap : later.map d.path = .ok content) (haddressable : later.Addressable)
    (threads : Nat) (override : Option Nat) :
    let whole := (content.size - d.geometry.imageOffset) / d.geometry.recordBytes
    (d.configured threads override).HasJob false fun job tasks =>
      (∀ task ∈ tasks, ∃ span, task.partition.frameSpan = .ok span ∧
        ∀ context : TaskContext, context.isCancelled = false →
          EndsBy d.path whole span (task.runIn later context)) ∧
      ∀ options : RunOptions, options.context.isCancelled = false →
        (∀ pool : ThreadPool, pool.KeepsOrder → pool.Serves options.parallelism →
          ∀ some ⊆ tasks, ∃ outcomes, runTasks later pool some options = .ok outcomes ∧
            List.Forall₂ (fun task outcome =>
              (task.runIn later options.context).settle = .ok outcome) some outcomes) ∧
        if whole < d.geometry.frameCount then
          job.Yields tasks d.geometry.frameCount later options
            (Attempt.refuse (.read (.truncated d.path whole)))
        else ∃ total, job.Yields tasks d.geometry.frameCount later options (.ok total) := by
  intro whole
  obtain ⟨_, _, hopened⟩ := Dataset.opened_of_load h
  have hother := hopened.configured threads override
  have hsize := haddressable _ _ hmap
  have hmatches : ((d.configured threads override).usedCorrections false).Matches
      [d.geometry.height, d.geometry.width] :=
    Dataset.matches_empty _
  have hrun : ∀ s : Span, s.start ≤ s.stop → s.stop ≤ d.geometry.frameCount →
      ∀ context : TaskContext, context.isCancelled = false →
        ((d.configured threads override).taskOn false s).runIn later context = Attempt.ofExcept
          ((d.configured threads override).taskOutcome false content context.tileBytes s) := by
    intro s hle hs context hflag
    rw [SumTask.runIn, hflag]
    exact Dataset.run_taskOn context.tileBytes hother.fits hpixels hmatches hmap hsize hle hs
  refine hother.hasJob fun htasks => ⟨?_, fun options hflag => ⟨?_, ?_⟩⟩
  · refine Dataset.forall_mem_tasksOn fun s hle hs => ?_
    refine ⟨s, Dataset.frameSpan_taskOn false hother.fits hle hs, fun context hflag => ?_⟩
    rw [hrun s hle hs context hflag]
    exact Dataset.endsBy_taskOutcome _ false context.tileBytes s
  · intro pool hpool hserves some hsome
    refine runTasks_settle hpool hserves fun task htask => ?_
    refine Dataset.forall_mem_tasksOn (P := fun task =>
      (task.runIn later options.context).Faultless) (fun s hle hs => ?_) task (hsome htask)
    rw [hrun s hle hs options.context hflag]
    exact Attempt.faultless_ofExcept _
  · have hyields := Dataset.yields_jobOn hother.fits hpixels hmatches hmap hsize hflag htasks
    rw [Dataset.jobOutcome] at hyields
    split
    · next hshort =>
      have hmissing : ¬ (d.configured threads override).geometry.frameCount ≤
          (d.configured threads override).wholeIn content.size := Nat.not_le.2 hshort
      rw [if_neg hmissing] at hyields
      exact hyields
    · next hwhole =>
      have hheld : (d.configured threads override).geometry.frameCount ≤
          (d.configured threads override).wholeIn content.size := Nat.not_lt.1 hwhole
      rw [if_pos hheld] at hyields
      exact ⟨_, hyields⟩

namespace SmallRecording

/-- The recording without the last byte of its second record. -/
def shortContent : FileContent :=
  .ofBytes (header.encode ++ (List.replicate 392 0 ++ records.take 11))

def shortFiles : FileView where
  find p := if p = path then .ok (.file shortContent) else .error .notFound

theorem size_shortContent : shortContent.size = 1035 := by
  decide +kernel

theorem map_shortContent : shortFiles.map path = .ok shortContent := by
  refine FileView.map_eq_ok.2 ⟨?_, rfl⟩
  simp only [shortFiles, if_true]

theorem addressable_shortFiles : shortFiles.Addressable := by
  intro p c hmap
  have hfind := (FileView.map_eq_ok.1 hmap).1
  simp only [shortFiles] at hfind
  split at hfind
  · cases hfind
    rw [size_shortContent]
    decide
  · contradiction

end SmallRecording

theorem short_recording_fails_at_its_second_frame :
    Dataset.load Mrc.read SmallRecording.files 1 ⟨SmallRecording.path, [2]⟩ =
        .ok SmallRecording.dataset ∧
      0 < SmallRecording.dataset.geometry.height * SmallRecording.dataset.geometry.width ∧
      SmallRecording.shortFiles.map SmallRecording.dataset.path =
        .ok SmallRecording.shortContent ∧
      SmallRecording.shortFiles.Addressable ∧
      ∃ job tasks, SumJob.ofDataset (SmallRecording.dataset.configured 1 (some 3)) false = .ok job ∧
        job.tasks = .ok tasks ∧ tasks.length = 3 ∧
        job.run SmallRecording.shortFiles .inline { parallelism := 2 } =
          Attempt.refuse (.read (.truncated SmallRecording.path 1)) := by
  have hpixels : 0 <
      SmallRecording.dataset.geometry.height * SmallRecording.dataset.geometry.width := by
    decide
  have hall := tasks_fail_where_the_file_ends SmallRecording.load hpixels
    SmallRecording.map_shortContent SmallRecording.addressable_shortFiles 1 (some 3)
  simp only [SmallRecording.size_shortContent] at hall
  obtain ⟨job, tasks, hjob, htasks, hlength, _, hoptions⟩ := hall.exists_job
    (by decide) (by decide)
  have hyields := (hoptions { parallelism := 2 } rfl).2
  rw [if_pos (by decide)] at hyields
  exact ⟨SmallRecording.load, hpixels, SmallRecording.map_shortContent,
    SmallRecording.addressable_shortFiles, job, tasks, hjob, htasks, hlength,
    hyields.run_eq .inline ThreadPool.keepsOrder_inline (.inr rfl)⟩

theorem too_many_partitions_have_no_job :
    Dataset.load Mrc.read SmallRecording.files 1 ⟨SmallRecording.path, [2]⟩ =
        .ok SmallRecording.dataset ∧
      0 < SmallRecording.dataset.geometry.height * SmallRecording.dataset.geometry.width ∧
      SmallRecording.dataset.wholeIn SmallRecording.content.size =
        SmallRecording.dataset.geometry.frameCount ∧
      SumJob.ofDataset (SmallRecording.dataset.withPartitionCount (2 ^ 62)) false =
        .error (.fault .overflow) := by
  obtain ⟨_, hfound, hopened⟩ := Dataset.opened_of_load SmallRecording.load
  cases SmallRecording.find_content.symm.trans hfound
  refine ⟨SmallRecording.load, by decide, Dataset.wholeIn_eq hopened.fits, ?_⟩
  rw [Dataset.configured_withPartitionCount, (hopened.configured ..).ofDataset_eq,
    if_pos (by decide)]

end DetectorScan
