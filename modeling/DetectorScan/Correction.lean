import DetectorScan.Mrc

/-!
# Dark and gain corrections

A recording may have two images beside it, in files named by a suffix: a dark frame, which
is subtracted from each frame, and a gain map, by which the difference is multiplied.
-/

namespace DetectorScan

inductive CorrectionKind where
  | dark
  | gain
  deriving DecidableEq, Repr

namespace CorrectionKind

/-- What follows the path of a recording in the path of its correction. -/
def suffix : CorrectionKind → String
  | .dark => ".dark.mrc"
  | .gain => ".gain.mrc"

def noun : CorrectionKind → String
  | .dark => "dark frame"
  | .gain => "gain map"

end CorrectionKind

inductive CorrectionError where
  | image (cause : MrcError)
  | mismatch (kind : CorrectionKind) (shape signal : List Nat)
  /-- The words of a source of images other than files. -/
  | source (words : String)
  deriving DecidableEq, Repr

def CorrectionError.message : CorrectionError → String
  | .image cause => cause.message
  | .mismatch kind shape signal =>
    kind.noun ++ " of shape " ++ listText shape ++ " does not match signal shape " ++
      listText signal
  | .source words => words

structure CorrectionSet where
  dark : Option (Grid Binary32) := none
  gain : Option (Grid Binary32) := none
  deriving DecidableEq, Repr

namespace CorrectionSet

def hasDark (c : CorrectionSet) : Bool :=
  c.dark.isSome

def hasGain (c : CorrectionSet) : Bool :=
  c.gain.isSome

def isEmpty (c : CorrectionSet) : Bool :=
  c.dark.isNone && c.gain.isNone

/-- Combines a frame with an image of its shape, if there is one. -/
def applyOne (kind : CorrectionKind) (f : Binary32 → Binary32 → Binary32)
    (image : Option (Grid Binary32)) (frame : Grid Binary32) :
    Except CorrectionError (Grid Binary32) :=
  match image with
  | none => .ok frame
  | some g =>
    if h : frame.shape = g.shape then .ok (frame.zipWith f g h)
    else .error (.mismatch kind g.shape frame.shape)

/-- Corrects a frame in place: what the frame then holds, and whether all went well. The
dark frame comes first, and stays subtracted where the gain map does not fit. -/
def apply (c : CorrectionSet) (frame : Grid Binary32) :
    Grid Binary32 × Except CorrectionError Unit :=
  match applyOne .dark (· - ·) c.dark frame with
  | .error cause => (frame, .error cause)
  | .ok frame =>
    match applyOne .gain (· * ·) c.gain frame with
    | .error cause => (frame, .error cause)
    | .ok frame => (frame, .ok ())

end CorrectionSet

/-! ### Images beside a recording -/

def sibling (base : Path) (suffix : String) : Path :=
  base.append suffix

end DetectorScan
