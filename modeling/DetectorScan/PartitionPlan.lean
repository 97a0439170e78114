import DetectorScan.Memory
import DetectorScan.Shape

/-!
# Plans of partitions

A dataset is read in partitions, runs of frames of equal length but for the last, which
takes what remains of the division. There are as many as there are workers, and no fewer
than the size of the file asks for.
-/

namespace DetectorScan

/-- The size of a file for which one more partition is taken. -/
def partitionTargetBytes : Nat := 512 * 1024 * 1024

def partitionCount (workers bytes : Nat) : Nat :=
  max (max workers (bytes / partitionTargetBytes)) 1

/-- The frames from `start` up to `stop` and their place in the dataset. -/
structure PartitionSpec where
  slice : Slice
  start : Nat
  stop : Nat
  deriving DecidableEq, Repr

namespace PartitionSpec

def frameCount (p : PartitionSpec) : Checked Nat :=
  Word.sub p.stop p.start

def span (p : PartitionSpec) : Span :=
  ⟨p.start, p.stop⟩

/-- Partition `i` of `count`, where each but the last takes `length` frames of `total`. -/
def nth (total count length : Nat) (signal : List Nat) (i : Nat) : Checked PartitionSpec := do
  let start ← Word.mul i length
  let next ← Word.add i 1
  let stop ← if next = count then pure total else Word.add start length
  return ⟨.frames start (← Word.sub stop start) signal, start, stop⟩

end PartitionSpec

/-- The size in memory of the plan of one partition. -/
def partitionSpecSize : Nat := 72

/-- `total` frames in `count` partitions, or in one if none is asked for. A plan that is
larger than an object can be does not come about. -/
def planPartitions (total count : Nat) (signal : List Nat) : Checked (List PartitionSpec) := do
  let count := max count 1
  Growth.atOnce.reserve partitionSpecSize count
  (List.range count).mapM (PartitionSpec.nth total count (total / count) signal)

theorem one_le_partitionCount (workers bytes : Nat) : 1 ≤ partitionCount workers bytes :=
  Nat.le_max_right ..

end DetectorScan
