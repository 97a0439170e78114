import DetectorScan.FileView
import DetectorScan.Header.Field

/-!
# The header of a recording

`Header.layout` lists the fields in the order in which they are stored. `decode` reads a
header from the start of a byte string and `encode` writes one; whatever follows the
fields is no part of the header.
-/

namespace DetectorScan

structure Header where
  magic : UInt32 := 0
  name : String := ""
  version : Int32 := 0
  headerSize : Int32 := 0
  description : String := ""
  width : UInt32 := 0
  height : UInt32 := 0
  bitDepth : UInt32 := 0
  bitDepthReal : UInt32 := 0
  imageSizeBytes : UInt32 := 0
  imageFormat : UInt32 := 0
  allocatedFrames : UInt32 := 0
  origin : UInt32 := 0
  trueImageSize : UInt32 := 0
  suggestedFrameRate : Binary64 := .zero
  descriptionFormat : Int32 := 0
  referenceFrame : UInt32 := 0
  fixedSize : UInt32 := 0
  flags : UInt32 := 0
  bayerPattern : Int32 := 0
  timeOffsetMicros : Int32 := 0
  extendedHeaderSize : Int32 := 0
  compressionFormat : UInt32 := 0
  referenceTimeSeconds : Int32 := 0
  referenceTimeMillis : UInt16 := 0
  referenceTimeMicros : UInt16 := 0
  deriving DecidableEq, Repr, Inhabited

inductive HeaderError where
  | tooShort (held : Nat)
  | invalidText (field : String)
  | kindMismatch (field : String) (found : FieldValue) (expected : String)
  | endedEarly
  deriving DecidableEq, Repr

namespace Header

def layout : List Field :=
  [⟨"magic", .unsigned32⟩,
   ⟨"name", .text 24⟩,
   ⟨"version", .signed32⟩,
   ⟨"header_size", .signed32⟩,
   ⟨"description", .text 512⟩,
   ⟨"width", .unsigned32⟩,
   ⟨"height", .unsigned32⟩,
   ⟨"bit_depth", .unsigned32⟩,
   ⟨"bit_depth_real", .unsigned32⟩,
   ⟨"image_size_bytes", .unsigned32⟩,
   ⟨"image_format", .unsigned32⟩,
   ⟨"allocated_frames", .unsigned32⟩,
   ⟨"origin", .unsigned32⟩,
   ⟨"true_image_size", .unsigned32⟩,
   ⟨"suggested_frame_rate", .real64⟩,
   ⟨"description_format", .signed32⟩,
   ⟨"reference_frame", .unsigned32⟩,
   ⟨"fixed_size", .unsigned32⟩,
   ⟨"flags", .unsigned32⟩,
   ⟨"bayer_pattern", .signed32⟩,
   ⟨"time_offset_us", .signed32⟩,
   ⟨"extended_header_size", .signed32⟩,
   ⟨"compression_format", .unsigned32⟩,
   ⟨"reference_time_s", .signed32⟩,
   ⟨"reference_time_ms", .unsigned16⟩,
   ⟨"reference_time_us", .unsigned16⟩]

def layoutSize (fields : List Field) : Nat :=
  fields.foldr (fun field size => field.kind.width + size) 0

def size : Nat :=
  layoutSize layout

theorem size_eq : size = 632 := by decide

def values (h : Header) : List FieldValue :=
  [.unsigned32 h.magic,
   .text h.name,
   .signed32 h.version,
   .signed32 h.headerSize,
   .text h.description,
   .unsigned32 h.width,
   .unsigned32 h.height,
   .unsigned32 h.bitDepth,
   .unsigned32 h.bitDepthReal,
   .unsigned32 h.imageSizeBytes,
   .unsigned32 h.imageFormat,
   .unsigned32 h.allocatedFrames,
   .unsigned32 h.origin,
   .unsigned32 h.trueImageSize,
   .real64 h.suggestedFrameRate,
   .signed32 h.descriptionFormat,
   .unsigned32 h.referenceFrame,
   .unsigned32 h.fixedSize,
   .unsigned32 h.flags,
   .signed32 h.bayerPattern,
   .signed32 h.timeOffsetMicros,
   .signed32 h.extendedHeaderSize,
   .unsigned32 h.compressionFormat,
   .signed32 h.referenceTimeSeconds,
   .unsigned16 h.referenceTimeMillis,
   .unsigned16 h.referenceTimeMicros]

def fields (h : Header) : List (String × FieldValue) :=
  (layout.map (·.name)).zip h.values

/-! ### A header from the values of its fields -/

/-- Takes named values one after the other. -/
abbrev Taker := StateT (List (String × FieldValue)) (Except HeaderError)

namespace Taker

def take : Taker (String × FieldValue) := do
  match ← get with
  | [] => throw .endedEarly
  | entry :: rest =>
    set rest
    return entry

/-- Takes a value that must be of one kind; `expected` is the name of the type it is kept in. -/
def takeAs {α : Type} (expected : String) (get? : FieldValue → Option α) : Taker α := do
  let (name, value) ← take
  match get? value with
  | some a => return a
  | none => throw (.kindMismatch name value expected)

def unsigned32 : Taker UInt32 :=
  takeAs "u32" fun
    | .unsigned32 n => some n
    | _ => none

def signed32 : Taker Int32 :=
  takeAs "i32" fun
    | .signed32 n => some n
    | _ => none

def unsigned16 : Taker UInt16 :=
  takeAs "u16" fun
    | .unsigned16 n => some n
    | _ => none

def real64 : Taker Binary64 :=
  takeAs "f64" fun
    | .real64 x => some x
    | _ => none

def text : Taker String :=
  takeAs "String" fun
    | .text s => some s
    | _ => none

def header : Taker Header := do
  return {
    magic := ← unsigned32
    name := ← text
    version := ← signed32
    headerSize := ← signed32
    description := ← text
    width := ← unsigned32
    height := ← unsigned32
    bitDepth := ← unsigned32
    bitDepthReal := ← unsigned32
    imageSizeBytes := ← unsigned32
    imageFormat := ← unsigned32
    allocatedFrames := ← unsigned32
    origin := ← unsigned32
    trueImageSize := ← unsigned32
    suggestedFrameRate := ← real64
    descriptionFormat := ← signed32
    referenceFrame := ← unsigned32
    fixedSize := ← unsigned32
    flags := ← unsigned32
    bayerPattern := ← signed32
    timeOffsetMicros := ← signed32
    extendedHeaderSize := ← signed32
    compressionFormat := ← unsigned32
    referenceTimeSeconds := ← signed32
    referenceTimeMillis := ← unsigned16
    referenceTimeMicros := ← unsigned16 }

end Taker

/-- The header whose fields have these values. -/
def ofValues (values : List FieldValue) : Except HeaderError Header :=
  (Taker.header.run ((layout.map (·.name)).zip values)).map (·.1)

theorem ofValues_values (h : Header) : ofValues h.values = .ok h := rfl

/-! ### Stored headers -/

def decodeFields : List Field → Bytes → Attempt HeaderError (List FieldValue)
  | [], _ => return []
  | field :: rest, b => do
    let (stored, b) ← b.next field.kind.width
    match field.kind.decode stored with
    | none => Attempt.refuse (.invalidText field.name)
    | some value => return value :: (← decodeFields rest b)

def decode (b : Bytes) : Attempt HeaderError Header := do
  if b.length < size then Attempt.refuse (.tooShort b.length)
  Attempt.ofExcept (ofValues (← decodeFields layout b))

def encodeFields (fields : List Field) (values : List FieldValue) : Bytes :=
  (fields.zip values).flatMap fun (field, value) => value.encode field.kind.width

def encode (h : Header) : Bytes :=
  encodeFields layout h.values

def toJson (h : Header) : Json :=
  .object (h.fields.map fun (name, value) => (name, value.toJson))

end Header

def HeaderError.message : HeaderError → String
  | .tooShort held => s!"header needs {Header.size} bytes, got {held}"
  | .invalidText field => s!"header field {field} is not valid UTF-16"
  | .kindMismatch field found expected =>
    s!"header field {field} decoded as {found.tagged}, expected {expected}"
  | .endedEarly => "header ended early"

end DetectorScan
