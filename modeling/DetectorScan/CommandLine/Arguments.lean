import DetectorScan.Path
import DetectorScan.ResultFile
import DetectorScan.Word

/-!
# Arguments of the command line

The first argument names a command. The arguments after it are options, in long or short
form with their value behind them or attached, and values without an option; after `--`
all are such values. An option that takes one value may occur once.

Arguments are read in their order, and the first that cannot be understood is
`Refusal.usage`, a value that its option does not take included. The version and the help
text are asked for in the same way, by leaving the reading of arguments where they stand.
-/

namespace DetectorScan

inductive Command where
  | info (input : Path) (scan : Option (List Nat)) (json : Bool)
  | detect (input : Path)
  | partitions (input : Path) (scan : Option (List Nat)) (workers count : Option Nat)
  | sum (input output : Path) (format : Option ResultFormat) (scan : Option (List Nat))
      (threads tileBytes count : Option Nat) (corrections : Bool)
  deriving DecidableEq, Repr

inductive Refusal where
  | usage
  | help
  | version
  deriving DecidableEq, Repr

namespace CommandLine

/-! ### Values -/

/-- A word in decimal digits, which may have a plus sign in front. -/
def word? (s : String) : Option Nat := do
  let digits := match s.toList with
    | '+' :: rest => rest
    | cs => cs
  if digits = [] ∨ digits.any (fun c => ¬ c.isDigit) then none
  let n := digits.foldl (fun n c => 10 * n + (c.toNat - '0'.toNat)) 0
  if n < wordLimit then some n else none

def words? (s : String) : Option (List Nat) :=
  (s.splitOn ",").mapM word?

/-- A path, which has at least one character. -/
def path? (s : String) : Option Path :=
  if s = "" then none else some ⟨s⟩

def format? : String → Option ResultFormat
  | "csv" => some .csv
  | "bin" => some .bin
  | _ => none

inductive OptionKind where
  | flag
  | word
  | words
  | path
  | format
  deriving DecidableEq, Repr

inductive OptionValue where
  | flag
  | word (n : Nat)
  | words (ns : List Nat)
  | path (p : Path)
  | format (f : ResultFormat)
  deriving DecidableEq, Repr

/-- Reads the value of an option; a flag has none to read. -/
def OptionKind.read? : OptionKind → String → Option OptionValue
  | .flag, _ => none
  | .word, s => (word? s).map .word
  | .words, s => (words? s).map .words
  | .path, s => (path? s).map .path
  | .format, s => (format? s).map .format

structure OptionSpec where
  long : String
  short : Option Char
  kind : OptionKind
  deriving DecidableEq, Repr

/-- What was read so far: the path without an option, and the options with their values, in
the order of the arguments. -/
structure Given where
  input : Option Path
  options : List (String × OptionValue)
  deriving DecidableEq, Repr

def Given.addInput (g : Given) (text : String) : Except Refusal Given :=
  match g.input, path? text with
  | none, some path => .ok { g with input := some path }
  | _, _ => .error .usage

/-- Takes a value of an option. Only a list of words may be given in several parts. -/
def Given.addOption (g : Given) (spec : OptionSpec) (value : OptionValue) :
    Except Refusal Given :=
  if spec.kind ≠ .words ∧ (g.options.lookup spec.long).isSome then .error .usage
  else .ok { g with options := g.options ++ [(spec.long, value)] }

def Given.addText (g : Given) (spec : OptionSpec) (text : String) : Except Refusal Given :=
  match spec.kind.read? text with
  | some value => g.addOption spec value
  | none => .error .usage

def Given.flag (g : Given) (spec : OptionSpec) : Bool :=
  (g.options.lookup spec.long).isSome

def Given.word? (g : Given) (spec : OptionSpec) : Option Nat :=
  match g.options.lookup spec.long with
  | some (.word n) => some n
  | _ => none

def Given.path? (g : Given) (spec : OptionSpec) : Option Path :=
  match g.options.lookup spec.long with
  | some (.path p) => some p
  | _ => none

def Given.format? (g : Given) (spec : OptionSpec) : Option ResultFormat :=
  match g.options.lookup spec.long with
  | some (.format f) => some f
  | _ => none

/-- The words given for an option, in all parts together. -/
def Given.words? (g : Given) (spec : OptionSpec) : Option (List Nat) :=
  let parts := g.options.filterMap fun (name, value) =>
    match value with
    | .words ns => if name = spec.long then some ns else none
    | _ => none
  if parts = [] then none else some parts.flatten

/-! ### Arguments -/

/-- Whether an argument is an option; a lone dash is not. -/
def looksLikeOption (arg : String) : Bool :=
  match arg.toList with
  | '-' :: _ :: _ => true
  | _ => false

/-- The parts of a long option before and behind its first equals sign. -/
def splitEquals (cs : List Char) : List Char × Option (List Char) :=
  let name := cs.takeWhile (· ≠ '=')
  match cs.drop name.length with
  | _ :: value => (name, some value)
  | [] => (name, none)

inductive Token where
  | stop
  | option (spec : OptionSpec) (attached : Option String)
  | help
  | unknown
  | value
  deriving DecidableEq, Repr

/-- The value attached to a short option: what follows it, less an equals sign in front. -/
def attachedToShort : List Char → Option String
  | [] => none
  | '=' :: rest => some (String.ofList rest)
  | rest => some (String.ofList rest)

def classify (specs : List OptionSpec) (arg : String) : Token :=
  match arg.toList with
  | ['-', '-'] => .stop
  | '-' :: '-' :: cs =>
    let (name, attached) := splitEquals cs
    if String.ofList name = "help" ∧ attached = none then .help
    else match specs.find? (·.long = String.ofList name) with
      | some spec => .option spec (attached.map String.ofList)
      | none => .unknown
  | '-' :: c :: cs =>
    if c = 'h' then .help
    else match specs.find? (·.short = some c) with
      | some spec => .option spec (attachedToShort cs)
      | none => .unknown
  | _ => .value

def collect (specs : List OptionSpec) : List String → Given → Except Refusal Given
  | [], g => .ok g
  | arg :: rest, g =>
    match classify specs arg with
    | .stop => rest.foldlM Given.addInput g
    | .help => .error .help
    | .unknown => .error .usage
    | .value => do collect specs rest (← g.addInput arg)
    | .option spec attached =>
      match spec.kind, attached, rest with
      | .flag, none, rest => do collect specs rest (← g.addOption spec .flag)
      | _, some text, rest => do collect specs rest (← g.addText spec text)
      | _, none, text :: rest =>
        if looksLikeOption text then .error .usage
        else do collect specs rest (← g.addText spec text)
      | _, none, [] => .error .usage

/-! ### Commands -/

def scanOption : OptionSpec := ⟨"scan-size", none, .words⟩

def jsonOption : OptionSpec := ⟨"json", none, .flag⟩

def workersOption : OptionSpec := ⟨"workers", none, .word⟩

def partitionsOption : OptionSpec := ⟨"partitions", none, .word⟩

def outputOption : OptionSpec := ⟨"output", some 'o', .path⟩

def formatOption : OptionSpec := ⟨"format", some 'f', .format⟩

def threadsOption : OptionSpec := ⟨"threads", some 't', .word⟩

def tileBytesOption : OptionSpec := ⟨"tile-bytes", none, .word⟩

def correctionsOption : OptionSpec := ⟨"corrections", none, .flag⟩

/-- The path and the options of a command; the path may not be missing. -/
def inputAndOptions (specs : List OptionSpec) (args : List String) :
    Except Refusal (Path × Given) := do
  let g ← collect specs args ⟨none, []⟩
  let some input := g.input | throw .usage
  return (input, g)

def parseInfo (args : List String) : Except Refusal Command := do
  let (input, g) ← inputAndOptions [scanOption, jsonOption] args
  return .info input (g.words? scanOption) (g.flag jsonOption)

def parseDetect (args : List String) : Except Refusal Command := do
  let (input, _) ← inputAndOptions [] args
  return .detect input

def parsePartitions (args : List String) : Except Refusal Command := do
  let (input, g) ← inputAndOptions [scanOption, workersOption, partitionsOption] args
  return .partitions input (g.words? scanOption) (g.word? workersOption)
    (g.word? partitionsOption)

def parseSum (args : List String) : Except Refusal Command := do
  let (input, g) ← inputAndOptions [outputOption, formatOption, scanOption, threadsOption,
    tileBytesOption, partitionsOption, correctionsOption] args
  let some output := g.path? outputOption | throw .usage
  return .sum input output (g.format? formatOption) (g.words? scanOption)
    (g.word? threadsOption) (g.word? tileBytesOption) (g.word? partitionsOption)
    (g.flag correctionsOption)

def helpTopics : List String := ["info", "detect", "partitions", "sum", "help"]

/-- What asking for help comes to: at most one topic, which must be known. -/
def helpOn : List String → Refusal
  | [] => .help
  | [topic] => if topic ∈ helpTopics then .help else .usage
  | _ => .usage

def parse : List String → Except Refusal Command
  | [] => .error .usage
  | first :: rest =>
    match first with
    | "info" => parseInfo rest
    | "detect" => parseDetect rest
    | "partitions" => parsePartitions rest
    | "sum" => parseSum rest
    | "help" => .error (helpOn rest)
    | "--version" => .error .version
    | "--help" => .error .help
    | _ =>
      match first.toList with
      | '-' :: 'V' :: _ => .error .version
      | '-' :: 'h' :: _ => .error .help
      | _ => .error .usage

end CommandLine

end DetectorScan
