import DetectorScan.ElementType
import DetectorScan.Path
import DetectorScan.Shape

/-!
# Runs of frames in a file

A descriptor says where the frames `start` up to `stop` of a dataset lie in one file: the
record of frame `fileStart` follows the file header, and one record follows the other,
each a frame header, the pixels and a footer.
-/

namespace DetectorScan

structure FileDescriptor where
  path : Path
  start : Nat
  stop : Nat
  /-- The number of the first frame that the file holds. -/
  fileStart : Nat
  element : ElementType
  /-- The axes of a frame. -/
  signal : List Nat
  frameHeader : Nat
  frameFooter : Nat
  fileHeader : Nat
  deriving DecidableEq, Repr

namespace FileDescriptor

def frameCount (d : FileDescriptor) : Checked Nat :=
  Word.sub d.stop d.start

def span (d : FileDescriptor) : Span :=
  ⟨d.start, d.stop⟩

def frameBytes (d : FileDescriptor) : Checked Nat := do
  Word.mul (← Word.product d.signal) d.element.size

/-- The size of a record, and so the distance from one to the next. -/
def stride (d : FileDescriptor) : Checked Nat := do
  Word.add (← Word.add d.frameHeader (← d.frameBytes)) d.frameFooter

def recordOffset (d : FileDescriptor) (frame : Nat) : Checked Nat := do
  Word.add d.fileHeader (← Word.mul (← Word.sub frame d.fileStart) (← d.stride))

def payloadOffset (d : FileDescriptor) (frame : Nat) : Checked Nat := do
  Word.add (← d.recordOffset frame) d.frameHeader

def clip (d : FileDescriptor) (start stop : Nat) : FileDescriptor :=
  { d with start := max start d.start, stop := min stop d.stop }

/-- Whether two descriptors find every frame at the same place. -/
def SameLayout (d e : FileDescriptor) : Prop :=
  d.path.Same e.path ∧ d.fileStart = e.fileStart ∧ d.element = e.element ∧
    d.signal = e.signal ∧ d.frameHeader = e.frameHeader ∧ d.frameFooter = e.frameFooter ∧
    d.fileHeader = e.fileHeader

instance (d e : FileDescriptor) : Decidable (SameLayout d e) :=
  inferInstanceAs (Decidable (_ ∧ _))

/-- Two descriptors of the same frames at the same place. -/
def Same (d e : FileDescriptor) : Prop :=
  d.SameLayout e ∧ d.start = e.start ∧ d.stop = e.stop

instance (d e : FileDescriptor) : Decidable (Same d e) :=
  inferInstanceAs (Decidable (_ ∧ _))

/-- The numbering of a descriptor makes sense: it starts no earlier than its file, and
does not stop before it starts. -/
def Valid (d : FileDescriptor) : Prop :=
  d.fileStart ≤ d.start ∧ d.start ≤ d.stop

instance (d : FileDescriptor) : Decidable d.Valid :=
  inferInstanceAs (Decidable (_ ∧ _))

/-! ### Layouts -/

theorem SameLayout.refl (d : FileDescriptor) : d.SameLayout d :=
  ⟨Path.Same.refl _, rfl, rfl, rfl, rfl, rfl, rfl⟩

theorem SameLayout.symm {d e : FileDescriptor} : d.SameLayout e → e.SameLayout d
  | ⟨h₁, h₂, h₃, h₄, h₅, h₆, h₇⟩ =>
    ⟨h₁.symm, h₂.symm, h₃.symm, h₄.symm, h₅.symm, h₆.symm, h₇.symm⟩

theorem SameLayout.trans {d e f : FileDescriptor} :
    d.SameLayout e → e.SameLayout f → d.SameLayout f
  | ⟨h₁, h₂, h₃, h₄, h₅, h₆, h₇⟩, ⟨k₁, k₂, k₃, k₄, k₅, k₆, k₇⟩ =>
    ⟨h₁.trans k₁, h₂.trans k₂, h₃.trans k₃, h₄.trans k₄, h₅.trans k₅, h₆.trans k₆,
      h₇.trans k₇⟩

theorem SameLayout.stride_eq {d e : FileDescriptor} (h : d.SameLayout e) :
    d.stride = e.stride := by
  obtain ⟨_, _, h₃, h₄, h₅, h₆, _⟩ := h
  simp [stride, frameBytes, h₃, h₄, h₅, h₆]

theorem SameLayout.payloadOffset_eq {d e : FileDescriptor} (h : d.SameLayout e)
    (frame : Nat) : d.payloadOffset frame = e.payloadOffset frame := by
  have hs := h.stride_eq
  obtain ⟨_, h₂, _, _, h₅, _, h₇⟩ := h
  simp [payloadOffset, recordOffset, hs, h₂, h₅, h₇]

theorem sameLayout_clip (d : FileDescriptor) (start stop : Nat) :
    (d.clip start stop).SameLayout d :=
  ⟨Path.Same.refl _, rfl, rfl, rfl, rfl, rfl, rfl⟩

end FileDescriptor

end DetectorScan
