import DetectorScan.Proofs.Attempts
import DetectorScan.Run

/-!
# Tasks side by side

Workers take the steps of the tasks of a job in some order, and each step looks at the
flag. A task is as far as the steps taken of it, whatever was done for other tasks
between them; under a flag that does not change, the order makes no difference.
-/

namespace DetectorScan

/-- A step that a worker takes of a task, and the flag that it sees. -/
structure Move where
  task : Nat
  cancelled : Bool

/-- The flags that the steps of one task see. -/
def Move.seen (moves : List Move) (task : Nat) : List Bool :=
  (moves.filter fun move => move.task = task).map (·.cancelled)

def SumProgress.outcome? : SumProgress → Option (Attempt JobError (Grid Binary32))
  | .finished outcome => some outcome
  | .running _ _ => none

namespace SumTask

variable {task : SumTask} {files : FileView} {cancelled : Bool} {flags : List Bool}

def steps (task : SumTask) (files : FileView) (progress : SumProgress) (flags : List Bool) :
    SumProgress :=
  flags.foldl (fun progress cancelled => task.step files cancelled progress) progress

theorem finish_finished (outcome : Attempt JobError (Grid Binary32)) :
    task.finish files cancelled (.finished outcome) = outcome := by
  rw [finish]

theorem finish_of_outcome {progress : SumProgress}
    {outcome : Attempt JobError (Grid Binary32)} (h : progress.outcome? = some outcome) :
    task.finish files cancelled progress = outcome := by
  cases progress with
  | finished o =>
    cases h
    exact finish_finished _
  | running stream total => contradiction

theorem finish_step (progress : SumProgress) :
    task.finish files cancelled (task.step files cancelled progress) =
      task.finish files cancelled progress := by
  cases progress with
  | finished outcome => rfl
  | running stream total =>
    rw [finish.eq_def task files cancelled (.running stream total)]
    simp only
    split
    · next outcome hs => rw [hs, finish_finished]
    · next rest total' hs => rw [hs]

theorem finish_steps (h : ∀ flag ∈ flags, flag = cancelled) (progress : SumProgress) :
    task.finish files cancelled (task.steps files progress flags) =
      task.finish files cancelled progress := by
  induction flags generalizing progress with
  | nil => rfl
  | cons flag rest ih =>
    obtain rfl := h flag (List.mem_cons_self ..)
    have hrest := ih fun other ho => h other (List.mem_cons_of_mem _ ho)
    rw [steps, List.foldl_cons]
    exact (hrest _).trans (finish_step progress)

theorem steps_finished (outcome : Attempt JobError (Grid Binary32)) :
    task.steps files (.finished outcome) flags = .finished outcome := by
  induction flags with
  | nil => rfl
  | cons flag rest ih => exact ih

/-- A task is at its end after more steps than it has frames left. -/
theorem steps_reach_end (progress : SumProgress) (h : remaining progress < flags.length) :
    ∃ outcome, (task.steps files progress flags).outcome? = some outcome := by
  -- a step that does not end the task leaves it fewer frames
  induction flags generalizing progress with
  | nil => contradiction
  | cons flag rest ih =>
    cases hs : task.step files flag progress with
    | finished outcome =>
      refine ⟨outcome, ?_⟩
      rw [steps, List.foldl_cons, hs]
      exact congrArg SumProgress.outcome? (steps_finished outcome)
    | running stream total =>
      have hless : remaining (.running stream total) < rest.length := by
        cases progress with
        | finished outcome => contradiction
        | running before sum =>
          have hlt := remaining_step_lt hs
          simp only [remaining, List.length_cons] at h ⊢
          omega
      obtain ⟨outcome, hend⟩ := ih _ hless
      refine ⟨outcome, ?_⟩
      rw [steps, List.foldl_cons, hs]
      exact hend

end SumTask

/-! ### Pools of tasks -/

abbrev Pool := List (SumTask × SumProgress)

namespace Pool

variable {files : FileView} {cancelled : Bool}

def take (files : FileView) (pool : Pool) (move : Move) : Pool :=
  pool.modify move.task fun entry => (entry.1, entry.1.step files move.cancelled entry.2)

/-- What all tasks have come to, if they are at their ends. -/
def outcomes? (pool : Pool) : Option (List (Attempt JobError (Grid Binary32))) :=
  pool.mapM fun entry => entry.2.outcome?

theorem getElem?_foldl_take (moves : List Move) (pool : Pool) (i : Nat) :
    (moves.foldl (take files) pool)[i]? =
      pool[i]?.map fun entry => (entry.1, entry.1.steps files entry.2 (Move.seen moves i)) := by
  induction moves generalizing pool with
  | nil =>
    rw [List.foldl_nil]
    exact (Option.map_id' ..).symm
  | cons move rest ih =>
    rw [List.foldl_cons, ih, take, List.getElem?_modify]
    by_cases hi : move.task = i
    · simp only [hi, Move.seen, List.filter_cons, decide_true, if_true, List.map_cons]
      cases pool[i]? <;> rfl
    · simp only [hi, Move.seen, List.filter_cons, decide_false, if_false]
      cases pool[i]? <;> rfl

theorem outcomes?_eq_some {pool : Pool} {outcomes : List (Attempt JobError (Grid Binary32))}
    (h : pool.outcomes? = some outcomes) :
    outcomes = pool.map fun entry => entry.1.finish files cancelled entry.2 := by
  induction pool generalizing outcomes with
  | nil =>
    cases h
    rfl
  | cons entry rest ih =>
    rw [outcomes?, List.mapM_cons] at h
    obtain ⟨outcome, hhead, h₁⟩ := Option.bind_eq_some_iff.1 h
    obtain ⟨others, htail, h₂⟩ := Option.bind_eq_some_iff.1 h₁
    cases h₂
    rw [List.map_cons, ← ih htail, SumTask.finish_of_outcome hhead]

theorem outcomes?_isSome {pool : Pool}
    (h : ∀ entry ∈ pool, ∃ outcome, entry.2.outcome? = some outcome) :
    ∃ outcomes, pool.outcomes? = some outcomes := by
  induction pool with
  | nil => exact ⟨[], rfl⟩
  | cons entry rest ih =>
    obtain ⟨outcome, hhead⟩ := h entry (List.mem_cons_self ..)
    obtain ⟨others, htail⟩ := ih fun other ho => h other (List.mem_cons_of_mem _ ho)
    refine ⟨outcome :: others, ?_⟩
    rw [outcomes?] at htail ⊢
    rw [List.mapM_cons, hhead, htail]
    rfl

/-- The tasks after some moves, each with how far it has come. -/
def after (tasks : List SumTask) (files : FileView) (options : RunOptions) (moves : List Move) :
    Pool :=
  moves.foldl (take files)
    (tasks.map fun task => (task, task.start options.context.tileBytes))

variable {tasks : List SumTask} {options : RunOptions} {moves : List Move}

theorem finish_after (h : ∀ move ∈ moves, move.cancelled = options.context.isCancelled) :
    (after tasks files options moves).map
        (fun entry => entry.1.finish files options.context.isCancelled entry.2) =
      tasks.map fun task => task.runIn files options.context := by
  refine List.ext_getElem? fun i => ?_
  have hflags : ∀ flag ∈ Move.seen moves i, flag = options.context.isCancelled := by
    intro flag hf
    obtain ⟨move, hmove, rfl⟩ := List.mem_map.1 hf
    exact h move (List.mem_filter.1 hmove).1
  rw [after, List.getElem?_map, getElem?_foldl_take, List.getElem?_map, List.getElem?_map]
  cases tasks[i]? with
  | none => rfl
  | some task => exact congrArg some (SumTask.finish_steps hflags _)

/-- Whatever the order of the steps, tasks come to what they come to one by one. -/
theorem outcomes_after {outcomes : List (Attempt JobError (Grid Binary32))}
    (h : ∀ move ∈ moves, move.cancelled = options.context.isCancelled)
    (hout : (after tasks files options moves).outcomes? = some outcomes) :
    outcomes = tasks.map fun task => task.runIn files options.context := by
  rw [← finish_after h]
  exact outcomes?_eq_some hout

/-- Moves that give every task more steps than it has frames take all to their ends. -/
theorem outcomes_after_isSome
    (h : ∀ i task, tasks[i]? = some task →
      SumTask.remaining (task.start options.context.tileBytes) < (Move.seen moves i).length) :
    ∃ outcomes, (after tasks files options moves).outcomes? = some outcomes := by
  refine outcomes?_isSome fun entry hentry => ?_
  obtain ⟨i, hi⟩ := List.mem_iff_getElem?.1 hentry
  rw [after, getElem?_foldl_take, List.getElem?_map] at hi
  cases htask : tasks[i]? with
  | none => simp [htask] at hi
  | some task =>
    rw [htask] at hi
    cases hi
    exact SumTask.steps_reach_end _ (h i task htask)

end Pool

/-- There are moves that give each of some tasks as many steps as it may need. -/
theorem Move.exists_seen (cancelled : Bool) (count steps : Nat) :
    ∃ moves : List Move, (∀ move ∈ moves, move.cancelled = cancelled) ∧
      ∀ i < count, steps ≤ (seen moves i).length := by
  let stepsOf (i : Nat) : List Move := List.replicate steps ⟨i, cancelled⟩
  refine ⟨(List.range count).flatMap stepsOf, fun move hmove => ?_, fun i hi => ?_⟩
  · obtain ⟨i, -, hmove⟩ := List.mem_flatMap.1 hmove
    rw [List.eq_of_mem_replicate hmove]
  · have hall : (stepsOf i).filter (fun move => move.task = i) = stepsOf i := by
      simp [stepsOf]
    have hpart : (stepsOf i).Sublist ((List.range count).flatMap stepsOf) :=
      List.sublist_flatten_of_mem (List.mem_map_of_mem (List.mem_range.2 hi))
    have hlength := (hpart.filter fun move => move.task = i).length_le
    rw [hall, List.length_replicate] at hlength
    rwa [seen, List.length_map]

/-! ### Jobs -/

theorem runTasks_eq_ok {files : FileView} {pool : ThreadPool} {tasks : List SumTask}
    {options : RunOptions} {settled : List (Except JobError (Grid Binary32))}
    (hpool : pool.KeepsOrder) (hserves : pool.Serves options.parallelism)
    (h : (tasks.mapM fun task => (task.runIn files options.context).settle) = .ok settled) :
    runTasks files pool tasks options = .ok settled := by
  unfold runTasks
  split
  · simp only [h, Attempt.liftM_ok]
  · next hmany =>
    simp only [hserves.resolve_left hmany, hpool.collect_eq _ _ _ h, mapError_ok,
      Attempt.ofExcept_ok, Attempt.liftM_ok, ok_bind]

theorem runTasks_of_start_error {files : FileView} {pool : ThreadPool} {options : RunOptions}
    {cause : PoolError} (hmany : 1 < options.parallelism)
    (hstart : pool.start options.parallelism = .error cause) (tasks : List SumTask) :
    runTasks files pool tasks options = Attempt.refuse (.threadPool cause) := by
  unfold runTasks
  rw [if_neg (Nat.not_le.2 hmany), hstart]
  rfl

namespace SumJob

variable {job : SumJob} {tasks : List SumTask} {files : FileView} {pool : ThreadPool}
  {options : RunOptions} {moves : List Move}
  {outcomes : List (Attempt JobError (Grid Binary32))}

/-- The total of a job, or its first error, from what its tasks have come to. -/
def resultOf (job : SumJob) (outcomes : List (Attempt JobError (Grid Binary32))) :
    Attempt JobError (Grid Binary32) := do
  let settled ← liftM (outcomes.mapM Attempt.settle)
  let accumulator ← Grid.allocate job.resultShape Binary32.size Binary32.zero
  Attempt.ofExcept (mergeOutcomes accumulator settled)

/-- What a job gives if some moves take all its tasks to their ends. -/
def runBy (job : SumJob) (files : FileView) (options : RunOptions) (moves : List Move) :
    Option (Attempt JobError (Grid Binary32)) :=
  match job.tasks with
  | .ok tasks => (Pool.after tasks files options moves).outcomes?.map job.resultOf
  | .error f => some (.error (.fault f))

theorem runBy_eq (htasks : job.tasks = .ok tasks) :
    job.runBy files options moves =
      (Pool.after tasks files options moves).outcomes?.map job.resultOf := by
  simp only [runBy, htasks]

theorem exists_runBy {frames : Nat} (htasks : job.tasks = .ok tasks)
    (hframes : ∀ task ∈ tasks,
      SumTask.remaining (task.start options.context.tileBytes) ≤ frames)
    (hsteps : ∀ i < tasks.length, frames < (Move.seen moves i).length) :
    ∃ result, job.runBy files options moves = some result := by
  have hall : ∀ i task, tasks[i]? = some task →
      SumTask.remaining (task.start options.context.tileBytes) < (Move.seen moves i).length := by
    intro i task htask
    obtain ⟨hi, _⟩ := List.getElem?_eq_some_iff.1 htask
    exact Nat.lt_of_le_of_lt (hframes task (List.mem_of_getElem? htask)) (hsteps i hi)
  obtain ⟨outcomes, hout⟩ : ∃ outcomes, (Pool.after tasks files options moves).outcomes? =
      some outcomes := Pool.outcomes_after_isSome hall
  rw [runBy_eq htasks, hout]
  exact ⟨_, rfl⟩

theorem run_of_tasks_error {f : Fault} (h : job.tasks = .error f) :
    job.run files pool options = .error (.fault f) := by
  rw [run, h]
  rfl

theorem run_of_settled {settled : List (Except JobError (Grid Binary32))}
    (hpool : pool.KeepsOrder) (hserves : pool.Serves options.parallelism)
    (htasks : job.tasks = .ok tasks)
    (h : (tasks.mapM fun task => (task.runIn files options.context).settle) = .ok settled) :
    job.run files pool options =
      job.resultOf (tasks.map fun task => task.runIn files options.context) := by
  have hsettled : (tasks.map fun task => task.runIn files options.context).mapM Attempt.settle =
      .ok settled := by
    rw [List.mapM_map]
    exact h
  rw [run, htasks, resultOf, hsettled]
  simp only [Attempt.liftM_ok, ok_bind, runTasks_eq_ok hpool hserves h]

/-- One after the other or in a pool, a job gives the total of what its tasks come to. -/
theorem run_eq (hpool : pool.KeepsOrder) (hserves : pool.Serves options.parallelism)
    (htasks : job.tasks = .ok tasks)
    (hfree : ∀ task ∈ tasks, (task.runIn files options.context).Faultless) :
    job.run files pool options =
      job.resultOf (tasks.map fun task => task.runIn files options.context) := by
  obtain ⟨settled, hsettled⟩ := exists_mapM_eq_ok fun task htask =>
    (hfree task htask).exists_settle
  exact run_of_settled hpool hserves htasks hsettled

theorem run_of_start_error {cause : PoolError} (htasks : job.tasks = .ok tasks)
    (hmany : 1 < options.parallelism) (hstart : pool.start options.parallelism = .error cause) :
    job.run files pool options = Attempt.refuse (.threadPool cause) := by
  rw [run, htasks]
  simp only [Attempt.liftM_ok, ok_bind, runTasks_of_start_error hmany hstart]
  rfl

/-- A job that is not stopped gives one result, however its tasks are run: one after the other,
in a pool, or by workers that take their steps in any order. `frames` bounds the frames of a
task, so that one step more takes it to its end. -/
structure Yields (job : SumJob) (tasks : List SumTask) (frames : Nat) (files : FileView)
    (options : RunOptions) (result : Attempt JobError (Grid Binary32)) : Prop where
  run_eq : ∀ pool : ThreadPool, pool.KeepsOrder → pool.Serves options.parallelism →
    job.run files pool options = result
  /-- A pool that does not start is the only thing that keeps the tasks from running. -/
  unserved : ∀ (pool : ThreadPool) (cause : PoolError), 1 < options.parallelism →
    pool.start options.parallelism = .error cause →
      job.run files pool options = Attempt.refuse (.threadPool cause)
  /-- Workers come to an end if no task is left out for good. -/
  ends : ∀ moves : List Move, (∀ move ∈ moves, move.cancelled = false) →
    (∀ i < tasks.length, frames < (Move.seen moves i).length) →
      job.runBy files options moves = some result
  agrees : ∀ moves : List Move, (∀ move ∈ moves, move.cancelled = false) →
    ∀ other, job.runBy files options moves = some other → other = result
  exists_moves : ∃ moves : List Move, (∀ move ∈ moves, move.cancelled = false) ∧
    job.runBy files options moves = some result

theorem yields_resultOf {frames : Nat} (htasks : job.tasks = .ok tasks)
    (hflag : options.context.isCancelled = false)
    (hfree : ∀ task ∈ tasks, (task.runIn files options.context).Faultless)
    (hframes : ∀ task ∈ tasks,
      SumTask.remaining (task.start options.context.tileBytes) ≤ frames) :
    job.Yields tasks frames files options
      (job.resultOf (tasks.map fun task => task.runIn files options.context)) := by
  have hagrees : ∀ moves : List Move, (∀ move ∈ moves, move.cancelled = false) → ∀ other,
      job.runBy files options moves = some other →
        other = job.resultOf (tasks.map fun task => task.runIn files options.context) := by
    intro moves hmoves other hother
    rw [runBy_eq htasks, Option.map_eq_some_iff] at hother
    obtain ⟨outcomes, hout, rfl⟩ := hother
    rw [Pool.outcomes_after (fun move hm => (hmoves move hm).trans hflag.symm) hout]
  have hends : ∀ moves : List Move, (∀ move ∈ moves, move.cancelled = false) →
      (∀ i < tasks.length, frames < (Move.seen moves i).length) →
        job.runBy files options moves =
          some (job.resultOf (tasks.map fun task => task.runIn files options.context)) := by
    intro moves hmoves hsteps
    obtain ⟨result, hrun⟩ : ∃ result, job.runBy files options moves = some result :=
      exists_runBy htasks hframes hsteps
    rw [hrun, hagrees moves hmoves result hrun]
  obtain ⟨moves, hmoves, hsteps⟩ := Move.exists_seen false tasks.length (frames + 1)
  exact {
    run_eq := fun pool hpool hserves => run_eq hpool hserves htasks hfree
    unserved := fun pool cause hmany hstart => run_of_start_error htasks hmany hstart
    ends := hends
    agrees := hagrees
    exists_moves := ⟨moves, hmoves, hends moves hmoves hsteps⟩ }

end SumJob

end DetectorScan
