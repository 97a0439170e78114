import DetectorScan.FileDescriptor
import DetectorScan.ScanError

/-!
# File sets

A file set gives the frames `start` up to `stop` of a dataset as a list of descriptors.
`ofList` takes the lists in which one descriptor goes on where the one before ended,
`restrict` cuts a range out of a set, and `concat` joins two sets and with them the
descriptors on both sides of the seam that are parts of one run.
-/

namespace DetectorScan

structure FileSet where
  files : List FileDescriptor
  start : Nat
  stop : Nat
  deriving DecidableEq, Repr

namespace FileSet

/-- The frame at which a list of descriptors ends that has to start at `expected`. -/
def follow (expected : Nat) : List FileDescriptor → Except ScanError Nat
  | [] => .ok expected
  | d :: rest =>
    if ¬ d.Valid then .error (.config (.descriptorRange d.path d.start d.stop))
    else if d.start ≠ expected then .error (.config (.descriptorGap d.path d.start expected))
    else follow d.stop rest

def firstFrame (files : List FileDescriptor) : Nat :=
  match files with
  | [] => 0
  | d :: _ => d.start

def ofList (files : List FileDescriptor) : Except ScanError FileSet :=
  (follow (firstFrame files) files).map fun stop => ⟨files, firstFrame files, stop⟩

/-- The set without a frame at a place. -/
def emptyAt (frame : Nat) : FileSet :=
  ⟨[], frame, frame⟩

def span (s : FileSet) : Span :=
  ⟨s.start, s.stop⟩

def frameCount (s : FileSet) : Checked Nat :=
  Word.sub s.stop s.start

def isEmpty (s : FileSet) : Bool :=
  s.start = s.stop

def clipAll (start stop : Nat) (files : List FileDescriptor) : List FileDescriptor :=
  (files.filter fun d => max d.start start < min d.stop stop).map (·.clip start stop)

def restrict (s : FileSet) (start stop : Nat) : Except ScanError FileSet :=
  if stop < start ∨ start < s.start ∨ s.stop < stop then
    .error (.range start stop s.start s.stop)
  else .ok ⟨clipAll start stop s.files, start, stop⟩

/-- Whether the second descriptor goes on where the first ends, in the same layout. -/
def Joins (d e : FileDescriptor) : Prop :=
  d.stop = e.start ∧ d.SameLayout e

instance (d e : FileDescriptor) : Decidable (Joins d e) :=
  inferInstanceAs (Decidable (_ ∧ _))

/-- A list with one more descriptor behind it, which lengthens the last one if it joins
it. -/
def appendFile : List FileDescriptor → FileDescriptor → List FileDescriptor
  | [], e => [e]
  | [d], e => if Joins d e then [{ d with stop := e.stop }] else [d, e]
  | d :: rest@(_ :: _), e => d :: appendFile rest e

def concat (s t : FileSet) : Except ScanError FileSet :=
  if t.start ≠ s.stop then .error (.config (.appendGap t.start t.stop s.stop))
  else .ok ⟨t.files.foldl appendFile s.files, s.start, t.stop⟩

/-- Two lists of descriptors of the same frames at the same places. -/
def SameFiles : List FileDescriptor → List FileDescriptor → Prop
  | [], [] => True
  | d :: ds, e :: es => d.Same e ∧ SameFiles ds es
  | _, _ => False

instance decideSameFiles : (ds es : List FileDescriptor) → Decidable (SameFiles ds es)
  | [], [] => isTrue trivial
  | d :: ds, e :: es =>
    match inferInstanceAs (Decidable (d.Same e)), decideSameFiles ds es with
    | isTrue h, isTrue k => isTrue ⟨h, k⟩
    | isFalse h, _ => isFalse fun x => h x.1
    | _, isFalse k => isFalse fun x => k x.2
  | [], _ :: _ => isFalse id
  | _ :: _, [] => isFalse id

def Same (s t : FileSet) : Prop :=
  SameFiles s.files t.files ∧ s.start = t.start ∧ s.stop = t.stop

instance (s t : FileSet) : Decidable (Same s t) :=
  inferInstanceAs (Decidable (_ ∧ _))

/-! ### Small facts -/

theorem restrict_eq_ok {s t : FileSet} {start stop : Nat} :
    s.restrict start stop = .ok t ↔
      (start ≤ stop ∧ s.start ≤ start ∧ stop ≤ s.stop) ∧
        t = ⟨clipAll start stop s.files, start, stop⟩ := by
  unfold restrict
  split
  · next h => simp; omega
  · next h =>
    constructor
    · intro k
      cases k
      exact ⟨by omega, rfl⟩
    · rintro ⟨_, rfl⟩
      rfl

theorem concat_eq_ok {s t u : FileSet} :
    s.concat t = .ok u ↔
      t.start = s.stop ∧ u = ⟨t.files.foldl appendFile s.files, s.start, t.stop⟩ := by
  unfold concat
  split
  · next h => simp [h]
  · next h =>
    constructor
    · intro k
      cases k
      exact ⟨by omega, rfl⟩
    · rintro ⟨_, rfl⟩
      rfl

end FileSet

end DetectorScan
