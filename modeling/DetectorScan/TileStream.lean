import DetectorScan.FileSet
import DetectorScan.Tile

/-!
# Streams of tiles

A stream takes the files of a set one after the other and cuts each into tiles of as many
frames as a budget of bytes allows, but at least one. A file is opened when the stream
reaches it. The first error ends the stream; a fault leaves it where it was, but for a
file that could not be opened, which is passed over.

`remaining` counts the frames that a stream may still deliver, and each tile lowers it.
-/

namespace DetectorScan

structure OpenFile where
  descriptor : FileDescriptor
  content : FileContent
  next : Nat
  framesPerTile : Nat
  framesPerTile_pos : 0 < framesPerTile
  deriving DecidableEq, Repr

/-- The number of frames that a budget of bytes allows in a tile. -/
def framesPerTile (budget frameBytes : Nat) : Nat :=
  max (budget / max frameBytes 1) 1

theorem framesPerTile_pos (budget frameBytes : Nat) : 0 < framesPerTile budget frameBytes :=
  Nat.le_max_right ..

namespace OpenFile

def ofDescriptor (files : FileView) (budget : Nat) (d : FileDescriptor) :
    Attempt ReadError OpenFile := do
  let frameBytes ← d.frameBytes
  let content ← Attempt.ofExcept ((files.map d.path).mapError .storage)
  return {
    descriptor := d
    content
    next := d.start
    framesPerTile := DetectorScan.framesPerTile budget frameBytes
    framesPerTile_pos := DetectorScan.framesPerTile_pos .. }

def nextCount (f : OpenFile) : Nat :=
  min f.framesPerTile (f.descriptor.stop - f.next)

/-- The number of whole records of `stride` bytes that lie from `offset` on. -/
def wholeRecords (size offset stride : Nat) : Nat :=
  (size - offset) / max stride 1

def nextTile (f : OpenFile) : Attempt ReadError Tile := do
  let d := f.descriptor
  let start := f.next
  let count := f.nextCount
  let stride ← d.stride
  let available := wholeRecords f.content.size (← d.recordOffset start) stride
  if available < count then
    let frame ← Word.add start available
    Attempt.refuse (.truncated d.path frame)
  let offset ← d.payloadOffset start
  let frameBytes ← d.frameBytes
  let (height, width) ← planeOf d.signal
  return {
    slice := .frames start count d.signal
    element := d.element
    content := f.content
    offset
    stride
    frameBytes
    height
    width }

def advance (f : OpenFile) : OpenFile :=
  { f with next := f.next + f.nextCount }

def remaining (f : OpenFile) : Nat :=
  f.descriptor.stop - f.next

theorem remaining_advance_lt (f : OpenFile) (h : f.next < f.descriptor.stop) :
    f.advance.remaining < f.remaining := by
  have hp := f.framesPerTile_pos
  simp only [advance, remaining, nextCount]
  omega

end OpenFile

structure TileStream where
  pending : List FileDescriptor
  current : Option OpenFile
  budget : Nat
  failed : Bool
  deriving DecidableEq, Repr

namespace TileStream

def ofFileSet (files : FileSet) (budget : Nat) : TileStream :=
  ⟨files.files, none, budget, false⟩

/-- What pulling at a stream gives, and the stream after it. -/
inductive Pull where
  | tile (tile : Tile) (rest : TileStream)
  | failed (cause : ReadError) (rest : TileStream)
  | finished (rest : TileStream)
  | fault (f : Fault) (rest : TileStream)
  deriving DecidableEq, Repr

def cut (budget : Nat) (f : OpenFile) (pending : List FileDescriptor) : Pull :=
  match f.nextTile with
  | .ok t => .tile t ⟨pending, some f.advance, budget, false⟩
  | .error (.refused cause) => .failed cause ⟨pending, none, budget, true⟩
  | .error (.fault e) => .fault e ⟨pending, some f, budget, false⟩

/-- Opens files until one of them has a frame. -/
def openNext (files : FileView) (budget : Nat) : List FileDescriptor → Pull
  | [] => .finished ⟨[], none, budget, false⟩
  | d :: rest =>
    match OpenFile.ofDescriptor files budget d with
    | .ok f => if f.next < f.descriptor.stop then cut budget f rest
      else openNext files budget rest
    | .error (.refused cause) => .failed cause ⟨rest, none, budget, true⟩
    | .error (.fault e) => .fault e ⟨rest, none, budget, false⟩

def next (files : FileView) (s : TileStream) : Pull :=
  if s.failed then .finished s
  else match s.current with
    | some f => if f.next < f.descriptor.stop then cut s.budget f s.pending
      else openNext files s.budget s.pending
    | none => openNext files s.budget s.pending

/-! ### A stream ends -/

def pendingFrames : List FileDescriptor → Nat
  | [] => 0
  | d :: pending => (d.stop - d.start) + pendingFrames pending

def remaining (s : TileStream) : Nat :=
  (match s.current with
    | some f => f.remaining
    | none => 0) + pendingFrames s.pending

theorem cut_remaining_lt {budget : Nat} {f : OpenFile} {pending : List FileDescriptor}
    {t : Tile} {rest : TileStream} (hf : f.next < f.descriptor.stop)
    (h : cut budget f pending = .tile t rest) :
    rest.remaining < f.remaining + pendingFrames pending := by
  unfold cut at h
  split at h
  · cases h
    have := f.remaining_advance_lt hf
    simp only [remaining]
    omega
  · contradiction
  · contradiction

theorem ofDescriptor_next {files : FileView} {budget : Nat} {d : FileDescriptor}
    {f : OpenFile} (h : OpenFile.ofDescriptor files budget d = .ok f) :
    f.descriptor = d ∧ f.next = d.start := by
  unfold OpenFile.ofDescriptor at h
  obtain ⟨_, _, h⟩ := bind_eq_ok.1 h
  obtain ⟨_, _, h⟩ := bind_eq_ok.1 h
  cases h
  exact ⟨rfl, rfl⟩

theorem openNext_remaining_lt {files : FileView} {budget : Nat}
    {pending : List FileDescriptor} {t : Tile} {rest : TileStream}
    (h : openNext files budget pending = .tile t rest) :
    rest.remaining < pendingFrames pending := by
  induction pending with
  | nil => contradiction
  | cons d ds ih =>
    rw [pendingFrames]
    unfold openNext at h
    split at h
    · next f hf =>
      obtain ⟨hd, hn⟩ := ofDescriptor_next hf
      split at h
      · next hlt =>
        have := cut_remaining_lt hlt h
        simp only [OpenFile.remaining, hd, hn] at this
        omega
      · have := ih h
        omega
    · contradiction
    · contradiction

/-- Each tile that is delivered leaves fewer frames to deliver. -/
theorem next_remaining_lt {files : FileView} {s : TileStream} {t : Tile} {rest : TileStream}
    (h : s.next files = .tile t rest) : rest.remaining < s.remaining := by
  unfold next at h
  split at h
  · contradiction
  · split at h
    · next f hf =>
      split at h
      · next hlt =>
        have := cut_remaining_lt hlt h
        simpa only [remaining, hf] using this
      · have := openNext_remaining_lt h
        simp only [remaining, hf] at this ⊢
        omega
    · next hf =>
      have := openNext_remaining_lt h
      simp only [remaining, hf] at this ⊢
      omega

end TileStream

end DetectorScan
