import DetectorScan.CommandLine.Arguments
import DetectorScan.CommandLine.ErrorText
import DetectorScan.JsonForms
import DetectorScan.Storage

/-!
# Commands

`evaluate` gives what a command writes: lines, or the file of a sum. It only looks at
files; `execute` also stores the sum, and `runArguments` goes from the arguments of
the program to its exit code and its two texts.
-/

namespace DetectorScan.CommandLine

def versionLine : String := "seqframe 0.3.0"

def usageLines : List String :=
  ["Usage: seqframe <COMMAND>",
   "",
   "Commands:",
   "  info <INPUT> [--scan-size <N,...>] [--json]",
   "  detect <INPUT>",
   "  partitions <INPUT> [--scan-size <N,...>] [--workers <N>] [--partitions <N>]",
   "  sum <INPUT> -o <OUTPUT> [-f csv|bin] [--scan-size <N,...>] [-t <N>]",
   "      [--tile-bytes <N>] [--partitions <N>] [--corrections]"]

/-! ### Columns -/

def padRight (width : Nat) (s : String) : String :=
  s ++ String.ofList (List.replicate (width - s.length) ' ')

def padLeft (width : Nat) (s : String) : String :=
  String.ofList (List.replicate (width - s.length) ' ') ++ s

def tableRow (part start stop frames : String) : String :=
  padRight 6 part ++ " " ++ padLeft 12 start ++ " " ++ padLeft 12 stop ++ " " ++ padLeft 10 frames

def partitionRow (index : Nat) (p : Partition) : Checked String := do
  let span ← p.frameSpan
  return tableRow (toString index) (toString span.start) (toString span.stop)
    (toString (← p.frameCount))

def partitionRows : (index : Nat) → List Partition → Checked (List String)
  | _, [] => return []
  | index, p :: rest => do
    return (← partitionRow index p) :: (← partitionRows (index + 1) rest)

/-! ### Commands -/

structure SumResult where
  output : Path
  format : ResultFormat
  content : Bytes
  frames : Nat
  partitions : Nat

/-- What is written once a sum is stored; `elapsed` is the time it took, as it is shown. -/
def SumResult.lines (r : SumResult) (elapsed : String) : List String :=
  [s!"Summed {r.frames} frames in {r.partitions} partitions in " ++ elapsed,
   "Wrote " ++ r.output.text ++ " (" ++ r.format.label ++ ")"]

/-- What a command comes to: the lines that it writes before it ends and how it ends, or a
sum to store. -/
inductive Evaluation where
  | done (lines : List String)
  | failed (lines : List String) (failure : Failure CommandError)
  | store (result : SumResult)

def Evaluation.ofAttempt (lines : List String) : Attempt CommandError (List String) → Evaluation
  | .ok more => .done (lines ++ more)
  | .error failure => .failed lines failure

/-- The parameters of a command: the scan that was given, or the one that fits the file. -/
def paramsFor (files : FileView) (input : Path) (scan : Option (List Nat)) :
    Except CommandError DatasetParams :=
  match scan with
  | some scan => .ok ⟨input, scan⟩
  | none =>
    match DetectedParams.ofFile? files input with
    | some detected => .ok detected.parameters
    | none => .error (.notRecording input)

def openDataset (files : FileView) (workers : Nat) (input : Path) (scan : Option (List Nat)) :
    Attempt CommandError Dataset := do
  let params ← Attempt.ofExcept (paramsFor files input scan)
  (Dataset.load Mrc.read files workers params).widen .read

def info (files : FileView) (machine : Machine) (input : Path) (scan : Option (List Nat))
    (json : Bool) : Evaluation :=
  Evaluation.ofAttempt [] do
    let d ← openDataset files machine.parallelism input scan
    if json then return [(Diagnostic.listToJson d.diagnostics).pretty]
    else return d.display :: d.diagnostics.map fun fact =>
      padRight 24 fact.name ++ " " ++ fact.value

def detect (files : FileView) (input : Path) : Evaluation :=
  match DetectedParams.ofFile? files input with
  | some detected => .done [detected.toJson.pretty]
  | none => .done ["false"]

def partitions (files : FileView) (machine : Machine) (input : Path) (scan : Option (List Nat))
    (workers count : Option Nat) : Evaluation :=
  match openDataset files machine.parallelism input scan with
  | .error failure => .failed [] failure
  | .ok d =>
    let d := d.withWorkers (workers.getD (ReadConfig.workers machine {}))
    let d := match count with
      | some count => d.withPartitionCount count
      | none => d
    Evaluation.ofAttempt [d.display, tableRow "part" "start" "stop" "frames"] do
      let parts ← d.partitions.widen .scan
      partitionRows 0 parts

def sumOptions (machine : Machine) (threads tileBytes : Option Nat) :
    Except CommandError RunOptions := do
  let config : ReadConfig := {}
  let config ← match threads with
    | some workers => (config.withParallelism? workers).mapError fun e => .read (.config e)
    | none => pure config
  let config ← match tileBytes with
    | some bytes => (config.withTileBytes? bytes).mapError fun e => .read (.config e)
    | none => pure config
  (RunOptions.ofConfig machine config).mapError .read

def sum (files : FileView) (machine : Machine) (pool : ThreadPool) (input output : Path)
    (format : Option ResultFormat) (scan : Option (List Nat))
    (threads tileBytes count : Option Nat) (corrections : Bool) : Evaluation :=
  let result : Attempt CommandError SumResult := do
    let options ← Attempt.ofExcept (sumOptions machine threads tileBytes)
    let d ← openDataset files machine.parallelism input scan
    let d := d.withWorkers options.parallelism
    let d := match count with
      | some count => d.withPartitionCount count
      | none => d
    let job ← (SumJob.ofDataset d corrections).widen .job
    let image ← (job.run files pool options).widen .job
    let format := format.getD (.ofPath output)
    return {
      output
      format
      content := resultBytes format image
      frames := d.geometry.frameCount
      partitions := job.partitions.length }
  match result with
  | .ok result => .store result
  | .error failure => .failed [] failure

/-- What a command comes to on a machine, as the files are found. -/
def evaluate (files : FileView) (machine : Machine) (pool : ThreadPool) : Command → Evaluation
  | .info input scan json => info files machine input scan json
  | .detect input => detect files input
  | .partitions input scan workers count => partitions files machine input scan workers count
  | .sum input output format scan threads tileBytes count corrections =>
    sum files machine pool input output format scan threads tileBytes count corrections

/-! ### Exit codes -/

structure Exit where
  code : Nat
  stdout : String
  stderr : String
  deriving DecidableEq, Repr

def textOf (lines : List String) : String :=
  String.join (lines.map (· ++ "\n"))

def Exit.ofFailure (lines : List String) : Failure CommandError → Exit
  | .refused cause => ⟨1, textOf lines, "Error: " ++ errorText cause ++ "\n"⟩
  | .fault _ => ⟨101, textOf lines, "arithmetic fault\n"⟩

def Exit.ofRefusal : Refusal → Exit
  | .usage => ⟨2, "", textOf usageLines⟩
  | .help => ⟨0, textOf usageLines, ""⟩
  | .version => ⟨0, versionLine ++ "\n", ""⟩

def execute (storage : Storage) (elapsed : String) : Evaluation → Exit × Storage
  | .done lines => (⟨0, textOf lines, ""⟩, storage)
  | .failed lines failure => (.ofFailure lines failure, storage)
  | .store result =>
    match storage.write result.output result.content with
    | (storage, .ok ()) => (⟨0, textOf (result.lines elapsed), ""⟩, storage)
    | (storage, .error e) => (.ofFailure [] (.refused (.read (.storage e))), storage)

def runArguments (storage : Storage) (machine : Machine) (pool : ThreadPool) (elapsed : String)
    (args : List String) : Exit × Storage :=
  match parse args with
  | .error refusal => (.ofRefusal refusal, storage)
  | .ok command => execute storage elapsed (evaluate storage.view machine pool command)

end DetectorScan.CommandLine
