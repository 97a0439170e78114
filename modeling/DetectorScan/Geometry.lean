import DetectorScan.ElementType
import DetectorScan.Header.Basic

/-!
# From a header to the layout of a file

`Header.check` refuses recordings of other kinds, and `Geometry.derive` computes from a
header and the size of its file where the records lie and how many whole ones there are.
What follows the last whole record is ignored.
-/

namespace DetectorScan

inductive FormatFault where
  | header (cause : HeaderError)
  | magic (found : Nat)
  | frameSize (width height : Nat)
  | emptyRecord
  | recordTooSmall (record frame : Nat)
  deriving DecidableEq, Repr

/-- What a recording may hold but is not read. -/
inductive Unsupported where
  | compression (format : Nat)
  | colour (format : Nat)
  | bitDepth (bits : Nat)
  deriving DecidableEq, Repr

inductive RecordingError where
  | invalid (cause : FormatFault)
  | unsupported (cause : Unsupported)
  | storage (cause : StorageError)
  deriving DecidableEq, Repr

/-- A number in hexadecimal digits behind `0x`, filled up with zeros to `places` digits. -/
def hexText (places n : Nat) : String :=
  let digits := Nat.toDigits 16 n
  "0x" ++ String.ofList (List.replicate (places - digits.length) '0' ++ digits)

def FormatFault.message : FormatFault → String
  | .header cause => cause.message
  | .magic found =>
    "the format of this .seq file is unrecognized (magic " ++ hexText 4 found ++ ")"
  | .frameSize width height => s!"frame size {width}x{height} overflows"
  | .emptyRecord => "true_image_size is 0"
  | .recordTooSmall record frame =>
    s!"true_image_size {record} is smaller than the frame payload of {frame} bytes"

def Unsupported.message : Unsupported → String
  | .compression format =>
    "only uncompressed images are supported in .seq files " ++
      s!"(compression_format {format})"
  | .colour format => s!"non-monochrome images are not supported (image_format {format})"
  | .bitDepth bits => s!"unsupported bit depth: {bits}"

def RecordingError.message : RecordingError → String
  | .invalid cause => "invalid file format: " ++ cause.message
  | .unsupported cause => "unsupported format: " ++ cause.message
  | .storage cause => "I/O error: " ++ cause.message

/-! ### Headers in files -/

namespace Header

def read (files : FileView) (path : Path) : Attempt RecordingError Header := do
  let content ← Attempt.ofExcept ((files.read path).mapError .storage)
  (decode (content.take size)).widen fun cause => .invalid (.header cause)

def recordingMagic : UInt32 := 0xFEED

def monochrome : UInt32 := 100

def uncompressed : UInt32 := 0

def fileExtensions : List String := ["seq"]

def check (h : Header) : Except RecordingError Unit :=
  if h.magic ≠ recordingMagic then .error (.invalid (.magic h.magic.toNat))
  else if h.compressionFormat ≠ uncompressed then
    .error (.unsupported (.compression h.compressionFormat.toNat))
  else if h.imageFormat ≠ monochrome then
    .error (.unsupported (.colour h.imageFormat.toNat))
  else .ok ()

end Header

/-! ### Geometry -/

/-- Where the first record starts in a recording of a version. -/
def imageOffset (version : Int32) : Nat :=
  if 5 ≤ version.toInt then 8192 else 1024

def countFrames (fileSize imageOffset recordSize : Nat) : Nat :=
  (fileSize - imageOffset) / recordSize

structure Geometry where
  imageOffset : Nat
  element : ElementType
  height : Nat
  width : Nat
  frameBytes : Nat
  footerBytes : Nat
  recordBytes : Nat
  frameCount : Nat
  /-- The bytes behind the last whole record. -/
  trailingBytes : Nat
  /-- Whether the times of frames are given in microseconds. -/
  microseconds : Bool
  deriving DecidableEq, Repr

namespace Geometry

def signal (g : Geometry) : List Nat :=
  [g.height, g.width]

def frameSize? (width height elementSize : Nat) : Option Nat := do
  let pixels ← (Word.mul width height).toOption
  (Word.mul pixels elementSize).toOption

/-- The layout of a file of `fileSize` bytes with this header. -/
def derive (h : Header) (fileSize : Nat) : Attempt RecordingError Geometry := do
  let offset := DetectorScan.imageOffset h.version
  let some element := ElementType.ofBitDepth? h.bitDepth.toNat
    | Attempt.refuse (.unsupported (.bitDepth h.bitDepth.toNat))
  let width := h.width.toNat
  let height := h.height.toNat
  let some frameBytes := frameSize? width height element.size
    | Attempt.refuse (.invalid (.frameSize width height))
  let recordBytes := h.trueImageSize.toNat
  if recordBytes = 0 then Attempt.refuse (.invalid .emptyRecord)
  if recordBytes < frameBytes then
    Attempt.refuse (.invalid (.recordTooSmall recordBytes frameBytes))
  let frameCount := countFrames fileSize offset recordBytes
  let used ← Word.add offset (← Word.mul frameCount recordBytes)
  return {
    imageOffset := offset
    element
    height
    width
    frameBytes
    footerBytes := recordBytes - frameBytes
    recordBytes
    frameCount
    trailingBytes := fileSize - used
    microseconds := 5 ≤ h.version.toInt }

end Geometry

end DetectorScan
