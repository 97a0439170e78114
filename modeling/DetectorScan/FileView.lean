import DetectorScan.FileContent
import DetectorScan.Path

/-!
# Files as they are found

A `FileView` says what a path leads to while a program looks at it: a file with its
content, a directory, or an error, and which of the files cannot be mapped into memory. All
reading goes through one, so that what is read depends on nothing else.
-/

namespace DetectorScan

/-- Why a file cannot be read or written. -/
inductive StorageError where
  | notFound
  | noDevice
  | notADirectory
  | isADirectory
  | nameTooLong
  | noMemory
  | nulInPath
  deriving DecidableEq, Repr

namespace StorageError

/-- The operating system's number and words for the error; a path with a NUL character
never gets as far as the operating system. -/
def code? : StorageError → Option (Nat × String)
  | .notFound => some (2, "No such file or directory")
  | .noDevice => some (19, "No such device")
  | .notADirectory => some (20, "Not a directory")
  | .isADirectory => some (21, "Is a directory")
  | .nameTooLong => some (36, "File name too long")
  | .noMemory => some (12, "Cannot allocate memory")
  | .nulInPath => none

def message (e : StorageError) : String :=
  match e.code? with
  | some (code, text) => text ++ " (os error " ++ toString code ++ ")"
  | none => "file name contained an unexpected NUL byte"

end StorageError

/-- What a path leads to. -/
inductive Found where
  | file (content : FileContent)
  | directory
  deriving DecidableEq, Repr

structure FileView where
  find : Path → Except StorageError Found
  /-- Why a file that is found cannot be mapped. -/
  unmapped : Path → Option StorageError := fun _ => none

namespace FileView

/-- The content of a file; `onDirectory` is what a directory gives instead. -/
def contentOr (files : FileView) (onDirectory : StorageError) (path : Path) :
    Except StorageError FileContent :=
  match files.find path with
  | .ok (.file content) => .ok content
  | .ok .directory => .error onDirectory
  | .error e => .error e

/-- The content of a file, read as a stream. -/
def read (files : FileView) (path : Path) : Except StorageError FileContent :=
  files.contentOr .isADirectory path

/-- The content of a file, mapped into memory. -/
def map (files : FileView) (path : Path) : Except StorageError FileContent := do
  let content ← files.contentOr .noDevice path
  match files.unmapped path with
  | some e => throw e
  | none => return content

/-- Whether a path leads to something. -/
def holds (files : FileView) (path : Path) : Bool :=
  (files.find path).toOption.isSome

/-- The least size that is too large for the address space of a process, whose addresses have
no more than 57 bits. -/
def addressLimit : Nat := 0x200000000000000

/-- No file is mapped that is too large for an address space. -/
def Addressable (files : FileView) : Prop :=
  ∀ path content, files.map path = .ok content → content.size < addressLimit

theorem contentOr_eq_ok {files : FileView} {onDirectory : StorageError} {path : Path}
    {content : FileContent} :
    files.contentOr onDirectory path = .ok content ↔ files.find path = .ok (.file content) := by
  unfold contentOr
  split <;> simp_all

theorem read_eq_ok {files : FileView} {path : Path} {content : FileContent} :
    files.read path = .ok content ↔ files.find path = .ok (.file content) :=
  contentOr_eq_ok

theorem map_eq_ok {files : FileView} {path : Path} {content : FileContent} :
    files.map path = .ok content ↔
      files.find path = .ok (.file content) ∧ files.unmapped path = none := by
  rw [map, bind_eq_ok]
  simp only [contentOr_eq_ok]
  cases files.unmapped path with
  | none => simp [pure, Except.pure]
  | some e => simp [throw, throwThe, MonadExceptOf.throw]

theorem map_of_unmapped {files : FileView} {path : Path} {content : FileContent}
    {e : StorageError} (hfind : files.find path = .ok (.file content))
    (hunmapped : files.unmapped path = some e) : files.map path = .error e := by
  have hcontent : files.contentOr .noDevice path = .ok content := contentOr_eq_ok.2 hfind
  simp only [map, hcontent, hunmapped]
  rfl

end FileView

end DetectorScan
