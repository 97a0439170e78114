import DetectorScan.Run
import DetectorScan.Text.Quoted

/-!
# Errors of the command line

The command line shows an error with all the layers through which it came, each layer by
the name of its kind, and with the words of the cause innermost.
-/

namespace DetectorScan

inductive CommandError where
  | read (cause : ReadError)
  | scan (cause : ScanError)
  | job (cause : JobError)
  | notRecording (path : Path)
  deriving DecidableEq, Repr

namespace CommandLine

def layer (name inner : String) : String :=
  name ++ "(" ++ inner ++ ")"

def layerFields (name : String) (fields : List (String × String)) : String :=
  name ++ " \x7b " ++ ", ".intercalate (fields.map fun (field, value) => field ++ ": " ++ value) ++
    " \x7d"

def errorKind : StorageError → String
  | .notFound => "NotFound"
  | .noDevice => "Uncategorized"
  | .notADirectory => "NotADirectory"
  | .isADirectory => "IsADirectory"
  | .nameTooLong => "InvalidFilename"
  | .noMemory => "OutOfMemory"
  | .nulInPath => "InvalidInput"

def storageText (e : StorageError) : String :=
  match e.code? with
  | some (code, text) =>
    layerFields "Os" [("code", toString code), ("kind", errorKind e), ("message", Quoted.text text)]
  | none => layerFields "Error" [("kind", errorKind e), ("message", Quoted.text e.message)]

def scanText : ScanError → String
  | .range start stop coveredStart coveredStop =>
    layerFields "Range"
      [("start", toString start), ("stop", toString stop),
       ("covered_start", toString coveredStart), ("covered_stop", toString coveredStop)]
  | .frameCount expected actual =>
    layerFields "ShapeMismatch" [("expected", toString expected), ("actual", toString actual)]
  | .config cause => layer "Config" (Quoted.text cause.message)

def recordingText : RecordingError → String
  | .invalid cause => layer "InvalidFormat" (Quoted.text cause.message)
  | .unsupported cause => layer "Unsupported" (Quoted.text cause.message)
  | .storage cause => layer "IoError" (storageText cause)

def readText : ReadError → String
  | .storage cause => layer "Io" (storageText cause)
  | .recording cause => layer "Format" (recordingText cause)
  | .scan cause => layer "Core" (scanText cause)
  | .truncated path frame =>
    layerFields "TruncatedFile" [("path", Quoted.text path.text), ("frame", toString frame)]
  | .correction cause => layer "Correction" (Quoted.text cause.message)
  | .elementType expected actual =>
    layerFields "DTypeMismatch" [("expected", expected.tag), ("actual", actual.tag)]

def jobText : JobError → String
  | .read cause => layer "Io" (readText cause)
  | .scan cause => layer "Core" (scanText cause)
  | .resultShape expected actual =>
    layerFields "ResultShape" [("expected", listText expected), ("actual", listText actual)]
  | .cancelled => "Cancelled"
  | .threadPool cause => layer "ThreadPool" cause.debugText

def errorText : CommandError → String
  | .read cause => layer "SeqIo" (readText cause)
  | .scan cause => layer "Core" (scanText cause)
  | .job cause => layer "Job" (jobText cause)
  | .notRecording path => layer "NotSeq" (Quoted.text path.text)

end CommandLine

end DetectorScan
