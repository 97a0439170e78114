import DetectorScan.Proofs.Interleaving
import Mathlib.Data.List.Forall2

/-!
# A flag that all tasks share

The flag that stops a job may be written at any time, and each step of a task looks at it
once. Whatever is written, a task is on the way to its own end until it is cancelled, so that
a job which gives a total gives the one that it gives without a flag.
-/

namespace DetectorScan

/-! ### The shared flag -/

/-- What happens while a job runs: the flag is written, or a worker takes a step of a task.
A step looks at the flag once, so that a write inside a step stands before or behind it. -/
inductive Event where
  | write (flag : Bool)
  | step (task : Nat)
  deriving DecidableEq

namespace Event

/-- The steps of a run, each with the flag as it was last written. -/
def moves : (flag : Bool) → List Event → List Move
  | _, [] => []
  | _, .write flag :: rest => moves flag rest
  | flag, .step task :: rest => ⟨task, flag⟩ :: moves flag rest

theorem cancelled_of_mem_moves {flag : Bool} {events : List Event}
    (h : .write (!flag) ∉ events) : ∀ move ∈ moves flag events, move.cancelled = flag := by
  induction events with
  | nil => exact nofun
  | cons event rest ih =>
    obtain ⟨hevent, hrest⟩ := not_or.1 fun hmem => h (List.mem_cons.2 hmem)
    cases event with
    | write other =>
      have hsame : other = flag := by
        cases flag <;> cases other <;> simp_all
      subst hsame
      exact ih hrest
    | step task => exact List.forall_mem_cons.2 ⟨rfl, ih hrest⟩

theorem length_seen_moves (flag : Bool) (events : List Event) (task : Nat) :
    (Move.seen (moves flag events) task).length = events.count (.step task) := by
  induction events generalizing flag with
  | nil => rfl
  | cons event rest ih =>
    cases event with
    | write other => exact ih other
    | step other =>
      have hrest := ih flag
      simp only [Move.seen, List.length_map] at hrest ⊢
      by_cases ht : other = task
      · subst ht
        simp [moves, hrest]
      · simp [moves, ht, hrest]

end Event

/-! ### One task -/

namespace SumTask

variable {task : SumTask} {files : FileView}

theorem step_of_flag (task : SumTask) (files : FileView) (flag : Bool)
    (progress : SumProgress) :
    task.step files flag progress = task.step files false progress ∨
      task.step files flag progress = .finished (Attempt.refuse .cancelled) := by
  cases flag with
  | false => exact .inl rfl
  | true =>
    cases progress with
    | finished outcome => exact .inl rfl
    | running stream total =>
      cases hs : stream.next files with
      | finished rest =>
        left
        simp only [step, hs]
      | fault f rest =>
        left
        simp only [step, hs]
      | failed cause rest =>
        right
        simp only [step, hs, if_true]
      | tile tile rest =>
        right
        simp only [step, hs, if_true]

/-- Whatever flags its steps see, a task is on the way to its own end or it is cancelled. -/
theorem finish_steps_of_flags (task : SumTask) (files : FileView) (flags : List Bool)
    (progress : SumProgress) :
    task.finish files false (task.steps files progress flags) =
        task.finish files false progress ∨
      task.finish files false (task.steps files progress flags) =
        Attempt.refuse .cancelled := by
  induction flags generalizing progress with
  | nil => exact .inl rfl
  | cons flag rest ih =>
    have hcons : task.steps files progress (flag :: rest) =
        task.steps files (task.step files flag progress) rest := rfl
    rw [hcons]
    obtain hstep | hstep := task.step_of_flag files flag progress
    · rw [hstep, ← finish_step progress]
      exact ih _
    · right
      rw [hstep, steps_finished, finish_finished]

end SumTask

/-! ### All tasks -/

variable {files : FileView} {pool : ThreadPool} {options : RunOptions} {job : SumJob}
  {tasks : List SumTask} {flag : Bool} {moves : List Move}
  {outcomes : List (Attempt JobError (Grid Binary32))}

theorem Pool.foldl_take (moves : List Move) (pool : Pool) :
    moves.foldl (take files) pool = pool.mapIdx fun i entry =>
      (entry.1, entry.1.steps files entry.2 (Move.seen moves i)) := by
  refine List.ext_getElem? fun i => ?_
  rw [getElem?_foldl_take, List.getElem?_mapIdx]

theorem RunOptions.isCancelled_context (h : options.cancel = none) :
    options.context.isCancelled = false := by
  simp only [context, TaskContext.isCancelled, h, Option.getD_none]

/-- What a run makes of a task: the outcome that the task has by itself, or none. -/
def KeptOrCancelled (files : FileView) (context : TaskContext) (task : SumTask)
    (outcome : Attempt JobError (Grid Binary32)) : Prop :=
  outcome = task.runIn files context ∨ outcome = Attempt.refuse .cancelled

theorem keptOrCancelled_of_outcomes (hfree : options.cancel = none)
    (h : (Pool.after tasks files (options.withFlag flag) moves).outcomes? = some outcomes) :
    List.Forall₂ (KeptOrCancelled files options.context) tasks outcomes := by
  have hflag := RunOptions.isCancelled_context hfree
  rw [Pool.outcomes?_eq_some h, Pool.after, Pool.foldl_take, List.forall₂_iff_get]
  refine ⟨by simp, fun i hi _ => ?_⟩
  simp only [KeptOrCancelled, SumTask.runIn, hflag, List.get_eq_getElem, List.getElem_map,
    List.getElem_mapIdx]
  exact SumTask.finish_steps_of_flags ..

theorem eq_map_of_kept {context : TaskContext}
    (h : List.Forall₂ (KeptOrCancelled files context) tasks outcomes)
    (hkept : Attempt.refuse .cancelled ∉ outcomes) :
    outcomes = tasks.map fun task => task.runIn files context := by
  induction h with
  | nil => rfl
  | cons hhead _ ih =>
    obtain ⟨hne, hrest⟩ := not_or.1 fun hmem => hkept (List.mem_cons.2 hmem)
    rw [List.map_cons, ← ih hrest, ← hhead.resolve_right (Ne.symm hne)]

/-- Under a flag that stays as it is, all tasks come to what they come to one by one. -/
theorem outcomes_of_constant_flag (hmoves : ∀ move ∈ moves, move.cancelled = flag)
    (h : (Pool.after tasks files (options.withFlag flag) moves).outcomes? = some outcomes) :
    outcomes = tasks.map fun task => task.runIn files (options.withFlag flag).context :=
  Pool.outcomes_after hmoves h

theorem runIn_withFlag_false (hfree : options.cancel = none) (task : SumTask) :
    task.runIn files (options.withFlag false).context = task.runIn files options.context := by
  rw [SumTask.runIn, SumTask.runIn, RunOptions.isCancelled_context hfree]
  rfl

/-! ### Totals -/

theorem exists_total_of_mem_merged {accumulator total : Grid Binary32}
    {outcomes : List (Except JobError (Grid Binary32))}
    (h : mergeOutcomes accumulator outcomes = .ok total)
    {outcome : Except JobError (Grid Binary32)} (hmem : outcome ∈ outcomes) :
    ∃ part, outcome = .ok part := by
  induction outcomes generalizing accumulator with
  | nil => contradiction
  | cons head rest ih =>
    obtain ⟨part, hhead, h⟩ := bind_eq_ok.1 h
    cases hmem with
    | head => exact ⟨part, hhead⟩
    | tail _ hmem =>
      split at h
      · exact ih h hmem
      · contradiction

namespace SumJob

/-- A total is never that of some of the tasks only. -/
theorem run_of_runBy_eq_ok {total : Grid Binary32} (hpool : pool.KeepsOrder)
    (hserves : pool.Serves options.parallelism) (hfree : options.cancel = none)
    (htasks : job.tasks = .ok tasks)
    (h : job.runBy files (options.withFlag flag) moves = some (.ok total)) :
    job.run files pool options = .ok total := by
  rw [runBy_eq htasks, Option.map_eq_some_iff] at h
  obtain ⟨outcomes, hout, hresult⟩ := h
  have hkeeping := keptOrCancelled_of_outcomes hfree hout
  obtain ⟨settled, hsettled, hrest⟩ := bind_eq_ok.1 hresult
  obtain ⟨accumulator, _, hmerge⟩ := bind_eq_ok.1 hrest
  rw [Attempt.liftM_eq_ok] at hsettled
  have hkept : Attempt.refuse .cancelled ∉ outcomes := by
    intro hmem
    obtain ⟨outcome, hmem, hcancelled⟩ := exists_of_mapM_eq_ok hsettled hmem
    cases hcancelled
    obtain ⟨part, hpart⟩ := exists_total_of_mem_merged (Attempt.ofExcept_eq_ok.1 hmerge) hmem
    contradiction
  rw [eq_map_of_kept hkeeping hkept] at hsettled hresult
  rw [List.mapM_map] at hsettled
  rw [run_of_settled hpool hserves htasks hsettled]
  exact hresult

end SumJob

end DetectorScan
