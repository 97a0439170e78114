import DetectorScan.CommandLine.Run

/-!
# The program

Looks up the files that a command may read, and writes what it gives.
-/

namespace DetectorScan.Program

def inputsOf : Command → List Path
  | .info input .. => withCorrections input
  | .detect input => [input]
  | .partitions input .. => withCorrections input
  | .sum input .. => withCorrections input
where
  withCorrections (input : Path) : List Path :=
    [input, sibling input CorrectionKind.dark.suffix, sibling input CorrectionKind.gain.suffix]

/-- The operating system's number of an error, which some calls give negated. -/
def errorNumber (code : UInt32) : Nat :=
  if code < 0x80000000 then code.toNat else (0 - code).toNat

def storageErrorOf : IO.Error → StorageError
  | .inappropriateType _ code _ =>
    if errorNumber code = 20 then .notADirectory else .isADirectory
  | .invalidArgument _ code _ => if errorNumber code = 36 then .nameTooLong else .notFound
  | _ => .notFound

def lookUp (path : Path) : IO (Except StorageError Found) := do
  try
    let content ← IO.FS.readBinFile path.text
    return .ok (.file ⟨content.data⟩)
  catch e =>
    match storageErrorOf e with
    | .isADirectory => return .ok .directory
    | e => return .error e

def viewOf (found : List (Path × Except StorageError Found)) : FileView where
  find path := (found.lookup path).getD (.error .notFound)

def machine : Machine :=
  ⟨0x100000000, 1⟩

def secondsText (milliseconds : Nat) : String :=
  let hundredths := (milliseconds + 5) / 10
  let places := toString (hundredths % 100)
  toString (hundredths / 100) ++ "." ++ String.ofList (List.replicate (2 - places.length) '0') ++
    places ++ "s"

def finish (result : CommandLine.Exit) : IO UInt32 := do
  IO.print result.stdout
  IO.eprint result.stderr
  return UInt32.ofNat result.code

def runCommand (command : Command) : IO UInt32 := do
  let started ← IO.monoMsNow
  let found ← (inputsOf command).mapM fun path => return (path, ← lookUp path)
  match CommandLine.evaluate (viewOf found) machine .inline command with
  | .done lines => finish ⟨0, CommandLine.textOf lines, ""⟩
  | .failed lines failure => finish (.ofFailure lines failure)
  | .store result =>
    try
      IO.FS.writeBinFile result.output.text ⟨result.content.toArray⟩
      let stopped ← IO.monoMsNow
      finish ⟨0, CommandLine.textOf (result.lines (secondsText (stopped - started))), ""⟩
    catch e =>
      finish (.ofFailure [] (.refused (.read (.storage (storageErrorOf e)))))

end DetectorScan.Program

def main (args : List String) : IO UInt32 :=
  match DetectorScan.CommandLine.parse args with
  | .error refusal => DetectorScan.Program.finish (.ofRefusal refusal)
  | .ok command => DetectorScan.Program.runCommand command
