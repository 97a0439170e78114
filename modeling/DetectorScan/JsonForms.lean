import DetectorScan.Dataset

/-!
# Stored forms

The JSON forms of the types that describe a dataset. Each `ofJson?` reads what the
`toJson` beside it writes. It takes more: further fields of an object, and the fields as a
list in their order; and it takes numbers that make no sense together, which are left to
whoever uses them.
-/

namespace DetectorScan

namespace ElementType

def toJson (t : ElementType) : Json :=
  .text t.tag

def ofJson? : Json → Option ElementType
  | .text s => ofTag? s
  | .object [(s, .null)] => ofTag? s
  | _ => none

theorem ofJson?_toJson (t : ElementType) : ofJson? t.toJson = some t :=
  ofTag?_tag t

end ElementType

namespace Path

def toJson (p : Path) : Json :=
  .text p.text

def ofJson? (j : Json) : Option Path :=
  j.text?.map Path.mk

end Path

namespace Shape

def toJson (s : Shape) : Json :=
  .object [("dims", .nats s.dims), ("sig_dims", .nat s.signalRank)]

def ofJson? (j : Json) : Option Shape := do
  let [dims, rank] ← j.fields? ["dims", "sig_dims"] | none
  return ⟨← dims.nats?, ← rank.nat?⟩

end Shape

namespace Slice

def toJson (s : Slice) : Json :=
  .object [("origin", .nats s.origin), ("shape", s.shape.toJson)]

def ofJson? (j : Json) : Option Slice := do
  let [origin, shape] ← j.fields? ["origin", "shape"] | none
  return ⟨← origin.nats?, ← Shape.ofJson? shape⟩

end Slice

namespace FileDescriptor

def toJson (d : FileDescriptor) : Json :=
  .object [
    ("path", d.path.toJson),
    ("start_idx", .nat d.start),
    ("end_idx", .nat d.stop),
    ("file_start_idx", .nat d.fileStart),
    ("native_dtype", d.element.toJson),
    ("sig_shape", .nats d.signal),
    ("frame_header", .nat d.frameHeader),
    ("frame_footer", .nat d.frameFooter),
    ("file_header", .nat d.fileHeader)]

def ofJson? (j : Json) : Option FileDescriptor := do
  let [path, start, stop, fileStart, element, signal, frameHeader, frameFooter, fileHeader] ←
      j.fields? ["path", "start_idx", "end_idx", "file_start_idx", "native_dtype", "sig_shape",
        "frame_header", "frame_footer", "file_header"]
    | none
  return {
    path := ← Path.ofJson? path
    start := ← start.nat?
    stop := ← stop.nat?
    fileStart := ← fileStart.nat?
    element := ← ElementType.ofJson? element
    signal := ← signal.nats?
    frameHeader := ← frameHeader.nat?
    frameFooter := ← frameFooter.nat?
    fileHeader := ← fileHeader.nat? }

end FileDescriptor

namespace FileSet

def toJson (s : FileSet) : Json :=
  .object [
    ("files", .list (s.files.map FileDescriptor.toJson)),
    ("start", .nat s.start),
    ("stop", .nat s.stop)]

def ofJson? (j : Json) : Option FileSet := do
  let [files, start, stop] ← j.fields? ["files", "start", "stop"] | none
  return ⟨← (← files.list?).mapM FileDescriptor.ofJson?, ← start.nat?, ← stop.nat?⟩

end FileSet

namespace DatasetMeta

def toJson (m : DatasetMeta) : Json :=
  .object [("shape", m.shape.toJson), ("raw_dtype", m.element.toJson)]

def ofJson? (j : Json) : Option DatasetMeta := do
  let [shape, element] ← j.fields? ["shape", "raw_dtype"] | none
  return ⟨← Shape.ofJson? shape, ← ElementType.ofJson? element⟩

end DatasetMeta

namespace Diagnostic

def toJson (d : Diagnostic) : Json :=
  .object [("name", .text d.name), ("value", .text d.value)]

def ofJson? (j : Json) : Option Diagnostic := do
  let [name, value] ← j.fields? ["name", "value"] | none
  return ⟨← name.text?, ← value.text?⟩

def listToJson (ds : List Diagnostic) : Json :=
  .list (ds.map toJson)

end Diagnostic

namespace DatasetParams

def toJson (p : DatasetParams) : Json :=
  .object [("path", p.path.toJson), ("scan_size", .nats p.scan)]

def ofJson? (j : Json) : Option DatasetParams := do
  let [path, scan] ← j.fields? ["path", "scan_size"] | none
  return ⟨← Path.ofJson? path, ← scan.nats?⟩

end DatasetParams

namespace DetectedParams

def toJson (p : DetectedParams) : Json :=
  .object [("parameters", p.parameters.toJson)]

def ofJson? (j : Json) : Option DetectedParams := do
  let [parameters] ← j.fields? ["parameters"] | none
  return ⟨← DatasetParams.ofJson? parameters⟩

end DetectedParams

namespace Dataset

/-- What tells one dataset from another: its file and its shape. -/
def cacheKey (d : Dataset) : Json :=
  .object [("path", d.path.toJson), ("shape", .nats d.info.shape.dims)]

end Dataset

end DetectorScan
