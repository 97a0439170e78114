import DetectorScan.Binary64
import DetectorScan.ScanError

/-!
# Settings of reading

A `ReadConfig` says how much memory a tile may take and how many workers read at once.
What is not set comes from the machine: the number of workers it can run, and its free
memory, of which each worker gets an equal part of a share.
-/

namespace DetectorScan

structure Machine where
  freeMemory : Nat
  parallelism : Nat
  deriving DecidableEq, Repr

/-- The budget of a tile, and the most that is derived from free memory. -/
def defaultTileBytes : Nat := 8 * 1024 * 1024

structure ReadConfig where
  memoryShare : Binary64 := .quarter
  tileBytes : Option Nat := none
  parallelism : Option Nat := none
  deriving DecidableEq, Repr

namespace ReadConfig

def withMemoryShare (c : ReadConfig) (share : Binary64) : ReadConfig :=
  { c with memoryShare := share }

def withTileBytes (c : ReadConfig) (bytes : Nat) : ReadConfig :=
  { c with tileBytes := some (max bytes 1) }

def withParallelism (c : ReadConfig) (workers : Nat) : ReadConfig :=
  { c with parallelism := some (max workers 1) }

/-- Sets the budget of a tile, which must not be zero. -/
def withTileBytes? (c : ReadConfig) (bytes : Nat) : Except ConfigError ReadConfig :=
  if bytes = 0 then .error .tileBytesZero else .ok { c with tileBytes := some bytes }

/-- Sets the number of workers, which must not be zero. -/
def withParallelism? (c : ReadConfig) (workers : Nat) : Except ConfigError ReadConfig :=
  if workers = 0 then .error .parallelismZero else .ok { c with parallelism := some workers }

def workers (machine : Machine) (c : ReadConfig) : Nat :=
  max (c.parallelism.getD machine.parallelism) 1

def resolveTileBytes (machine : Machine) (c : ReadConfig) : Except ConfigError Nat :=
  match c.tileBytes with
  | some bytes => .ok (max bytes 1)
  | none =>
    if ¬ c.memoryShare.isPositiveShare then .error .memoryShare
    else if machine.freeMemory = 0 then .error .noMemory
    else
      let share := (Binary64.ofNat machine.freeMemory * c.memoryShare).floorTo Word.max
      .ok (min (max (share / c.workers machine) 1) defaultTileBytes)

theorem one_le_workers (machine : Machine) (c : ReadConfig) : 1 ≤ c.workers machine :=
  Nat.le_max_right ..

end ReadConfig

end DetectorScan
