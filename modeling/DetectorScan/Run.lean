import DetectorScan.FrameSum
import DetectorScan.ReadConfig

/-!
# Running jobs

Options say how many workers run the tasks of a job, how large their tiles may be, and
whether there is a flag that stops them. A single worker runs the tasks one after the other;
several are the threads of a pool, which may fail to start.
-/

namespace DetectorScan

/-- What a task is told: the budget of its tiles, and the state of the flag that stops
it, if it was given one. -/
structure TaskContext where
  tileBytes : Nat
  cancel : Option Bool
  deriving DecidableEq, Repr

namespace TaskContext

/-- A context without a flag, with a budget of one byte at least. -/
def ofTileBytes (bytes : Nat) : TaskContext :=
  ⟨max bytes 1, none⟩

def standard : TaskContext :=
  ofTileBytes defaultTileBytes

def withFlag (c : TaskContext) (flag : Bool) : TaskContext :=
  { c with cancel := some flag }

def isCancelled (c : TaskContext) : Bool :=
  c.cancel.getD false

def checkCancelled (c : TaskContext) : Except JobError Unit :=
  if c.isCancelled then .error .cancelled else .ok ()

end TaskContext

structure RunOptions where
  parallelism : Nat := 1
  tileBytes : Nat := defaultTileBytes
  cancel : Option Bool := none
  deriving DecidableEq, Repr

namespace RunOptions

def ofConfig (machine : Machine) (config : ReadConfig) : Except ReadError RunOptions := do
  let bytes ← (config.resolveTileBytes machine).mapError .config
  return { parallelism := config.workers machine, tileBytes := bytes }

def withParallelism (o : RunOptions) (workers : Nat) : RunOptions :=
  { o with parallelism := max workers 1 }

def withTileBytes (o : RunOptions) (bytes : Nat) : RunOptions :=
  { o with tileBytes := max bytes 1 }

def withFlag (o : RunOptions) (flag : Bool) : RunOptions :=
  { o with cancel := some flag }

def context (o : RunOptions) : TaskContext :=
  { TaskContext.ofTileBytes o.tileBytes with cancel := o.cancel }

end RunOptions

def SumTask.runIn (task : SumTask) (files : FileView) (context : TaskContext) :
    Attempt JobError (Grid Binary32) :=
  task.run files context.isCancelled context.tileBytes

/-! ### Threads -/

/-- Pools of threads: `start` starts one with a number of threads, and `collect` runs a function
on the entries of a list in a pool that was started, and gives what it collects. -/
structure ThreadPool where
  start : Nat → Except PoolError Unit
  collect : {α β : Type} → (α → Checked β) → List α → Checked (List β)

namespace ThreadPool

/-- A pool runs a function once on every entry, and collects the values in the order of the
entries. -/
structure KeepsOrder (pool : ThreadPool) : Prop where
  collect_eq : ∀ {α β : Type} (f : α → Checked β) (xs : List α) (ys : List β),
    xs.mapM f = .ok ys → pool.collect f xs = .ok ys

/-- So many workers can be had; a single one needs no pool. -/
def Serves (pool : ThreadPool) (workers : Nat) : Prop :=
  workers ≤ 1 ∨ pool.start workers = .ok ()

/-- A pool that runs everything on the thread that asks for it. -/
def inline : ThreadPool where
  start _ := .ok ()
  collect f xs := xs.mapM f

theorem keepsOrder_inline : inline.KeepsOrder where
  collect_eq _ _ _ h := h

end ThreadPool

/-! ### Tasks and their results -/

/-- The outcome of every task, in the order of the tasks. A task that fails does not keep
the others from running. -/
def runTasks (files : FileView) (pool : ThreadPool) (tasks : List SumTask)
    (options : RunOptions) : Attempt JobError (List (Except JobError (Grid Binary32))) :=
  let run (task : SumTask) := (task.runIn files options.context).settle
  if options.parallelism ≤ 1 then liftM (tasks.mapM run)
  else do
    Attempt.ofExcept ((pool.start options.parallelism).mapError .threadPool)
    pool.collect run tasks

/-- Merges outcomes in order; the first failure is that of the whole. -/
def mergeOutcomes (accumulator : Grid Binary32) :
    List (Except JobError (Grid Binary32)) → Except JobError (Grid Binary32)
  | [] => .ok accumulator
  | outcome :: rest => do
    match mergeResult (← outcome) accumulator with
    | (merged, .ok ()) => mergeOutcomes merged rest
    | (_, .error cause) => throw cause

def SumJob.run (job : SumJob) (files : FileView) (pool : ThreadPool) (options : RunOptions) :
    Attempt JobError (Grid Binary32) := do
  let outcomes ← runTasks files pool (← job.tasks) options
  let accumulator ← Grid.allocate job.resultShape Binary32.size Binary32.zero
  Attempt.ofExcept (mergeOutcomes accumulator outcomes)

end DetectorScan
