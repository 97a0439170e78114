import DetectorScan.Dataset

/-!
# Sums of frames

A job adds all frames of a dataset to one image. It has a task for each partition; a task
goes through the tiles of its partition and adds their frames to a total, looking before
each tile whether it is to stop. The totals of the tasks are then merged in order.

`SumTask.step` is one tile of a task. `SumTask.finish` takes steps to the end, so that a
run is what its steps make it, in whatever order the steps of several tasks are taken.
-/

namespace DetectorScan

/-- Why a pool of threads cannot be had: its words, and how it shows itself. -/
structure PoolError where
  message : String
  debugText : String
  deriving DecidableEq, Repr

inductive JobError where
  | read (cause : ReadError)
  | scan (cause : ScanError)
  | resultShape (expected actual : List Nat)
  | cancelled
  | threadPool (cause : PoolError)
  deriving DecidableEq, Repr

def JobError.message : JobError → String
  | .read cause => cause.message
  | .scan cause => cause.message
  | .resultShape expected actual =>
    "result of shape " ++ listText actual ++ " cannot be merged into accumulator of shape " ++
      listText expected
  | .cancelled => "task cancelled"
  | .threadPool cause => "thread pool error: " ++ cause.message

/-! ### Adding frames -/

/-- The sum of frames of one shape, from zero on in their order. -/
def sumFrames (shape : List Nat) (frames : List (Grid Binary32)) : Grid Binary32 :=
  frames.foldl (Grid.combine (· + ·)) (Grid.filled shape .zero)

def correctFrames (corrections : CorrectionSet) (frames : List (Grid Binary32)) :
    Except CorrectionError (List (Grid Binary32)) :=
  frames.mapM fun frame =>
    match corrections.apply frame with
    | (corrected, .ok ()) => .ok corrected
    | (_, .error cause) => .error cause

/-- Adds an image to the part of a total that the first two axes of a frame span. -/
def addToTotal (total : Grid Binary32) (bounds : List Span) (image : Grid Binary32) :
    Checked (Grid Binary32) :=
  match bounds with
  | vertical :: horizontal :: _ => total.combineBlock (· + ·) vertical horizontal image
  | _ => .error .outOfRange

/-- Merges a result into an accumulator: what the accumulator then holds, and whether the
result had its shape. -/
def mergeResult (result accumulator : Grid Binary32) : Grid Binary32 × Except JobError Unit :=
  if h : accumulator.shape = result.shape then
    (accumulator.zipWith (· + ·) result h, .ok ())
  else (accumulator, .error (.resultShape accumulator.shape result.shape))

/-! ### Tasks -/

structure SumTask where
  partition : Partition
  height : Nat
  width : Nat
  applyCorrections : Bool
  deriving DecidableEq, Repr

/-- How far a task has come. -/
inductive SumProgress where
  | running (stream : TileStream) (total : Grid Binary32)
  | finished (outcome : Attempt JobError (Grid Binary32))

namespace SumTask

/-- The size in memory of a task. -/
def size : Nat := 136

/-- The frames of a tile as the task counts them. -/
def framesOf (task : SumTask) (tile : Tile) : Attempt JobError (List (Grid Binary32)) := do
  let data ← tile.reals.widen .read
  if task.applyCorrections ∧ ¬ task.partition.corrections.isEmpty then
    Attempt.ofExcept ((correctFrames task.partition.corrections data.layers).mapError fun cause =>
      .read (.correction cause))
  else return data.layers

def addTile (task : SumTask) (tile : Tile) (total : Grid Binary32) :
    Attempt JobError (Grid Binary32) := do
  let frames ← task.framesOf tile
  let bounds ← tile.slice.signalBounds
  addToTotal total bounds (sumFrames [tile.height, tile.width] frames)

def start (task : SumTask) (budget : Nat) : SumProgress :=
  match Grid.allocate [task.height, task.width] Binary32.size Binary32.zero with
  | .ok total => .running (task.partition.tiles budget) total
  | .error f => .finished (.error (.fault f))

/-- One tile more, or the end of the task. A task that is to stop does so as soon as there
is something left to do, be it a tile or an error. -/
def step (task : SumTask) (files : FileView) (cancelled : Bool) : SumProgress → SumProgress
  | .finished outcome => .finished outcome
  | .running stream total =>
    match stream.next files with
    | .finished _ => .finished (.ok total)
    | .fault f _ => .finished (.error (.fault f))
    | .failed cause _ =>
      .finished (Attempt.refuse (if cancelled then .cancelled else .read cause))
    | .tile tile rest =>
      if cancelled then .finished (Attempt.refuse .cancelled)
      else match task.addTile tile total with
        | .ok total => .running rest total
        | .error failure => .finished (.error failure)

def remaining : SumProgress → Nat
  | .running stream _ => stream.remaining
  | .finished _ => 0

theorem remaining_step_lt {task : SumTask} {files : FileView} {cancelled : Bool}
    {stream rest : TileStream} {total total' : Grid Binary32}
    (h : task.step files cancelled (.running stream total) = .running rest total') :
    rest.remaining < stream.remaining := by
  unfold step at h
  split at h
  · contradiction
  · next hs =>
    cases hs
    split at h
    · contradiction
    · contradiction
    · contradiction
    · next hn =>
      split at h
      · contradiction
      · split at h
        · cases h
          exact TileStream.next_remaining_lt hn
        · contradiction

def finish (task : SumTask) (files : FileView) (cancelled : Bool) (progress : SumProgress) :
    Attempt JobError (Grid Binary32) :=
  match progress with
  | .finished outcome => outcome
  | .running stream total =>
    match h : task.step files cancelled (.running stream total) with
    | .finished outcome => outcome
    | .running rest total' =>
      have : rest.remaining < stream.remaining := remaining_step_lt h
      task.finish files cancelled (.running rest total')
  termination_by remaining progress
  decreasing_by exact this

def run (task : SumTask) (files : FileView) (cancelled : Bool) (budget : Nat) :
    Attempt JobError (Grid Binary32) :=
  task.finish files cancelled (task.start budget)

end SumTask

/-! ### Jobs -/

structure SumJob where
  partitions : List Partition
  height : Nat
  width : Nat
  applyCorrections : Bool
  deriving DecidableEq, Repr

namespace SumJob

/-- A job on a dataset of a shape, whose frames must have two axes. The partitions are
planned once and kept. -/
def ofPartitions (shape : Shape) (partitions : Attempt ScanError (List Partition))
    (applyCorrections : Bool) : Attempt JobError SumJob := do
  let signal ← shape.signal
  match signal.dims with
  | [height, width] =>
    return ⟨← partitions.widen .scan, height, width, applyCorrections⟩
  | dims => Attempt.refuse (.scan (.config (.signalRank dims)))

def ofDataset (d : Dataset) (applyCorrections : Bool) : Attempt JobError SumJob :=
  ofPartitions d.info.shape d.partitions applyCorrections

def taskOf (job : SumJob) (partition : Partition) : SumTask :=
  ⟨partition, job.height, job.width, job.applyCorrections⟩

def tasks (job : SumJob) : Checked (List SumTask) := do
  Growth.atOnce.reserve SumTask.size job.partitions.length
  return job.partitions.map job.taskOf

def resultShape (job : SumJob) : List Nat :=
  [job.height, job.width]

end SumJob

end DetectorScan
