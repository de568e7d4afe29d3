import MailMerge.Directive.Error
import MailMerge.Text.Split

/-!
# Files

A disk holds texts under absolute paths and has a working directory. A path is followed part by
part, as the system does it: every part but the last has to be a directory. Paths and names have
a greatest length, which is counted in bytes. The system may refuse to look something up in a
directory, to read a file or to write it; a file that holds no text is one that it does not read.

A file that is written is written completely. That writing breaks off in the middle of a file, as on
a disk that is full, is left out.

## Main definitions

* `Disk`: directories, files, what the system refuses, and the working directory.
* `Disk.read`, `Disk.write`, `Disk.holds`: working with files by their paths.
* `Disk.changes`: what has been written.

## Main results

* `text?_put`: what has been written is what is read, and other files stay as they are.
* `changes_self`: a disk does not differ from itself.
-/

namespace MailMerge

/-- How the system words a fault. -/
def FileFault.text : FileFault → String
  | .notFound => "No such file or directory (os error 2)"
  | .permissionDenied => "Permission denied (os error 13)"
  | .isDirectory => "Is a directory (os error 21)"
  | .notDirectory => "Not a directory (os error 20)"
  | .nameTooLong => "File name too long (os error 36)"
  | .invalidData => "stream did not contain valid UTF-8"
  | .other => "Input/output error (os error 5)"

/-- A file operation that failed. -/
def FileFault.failure (f : FileFault) : Failure := .file f f.text

/-- An absolute path. -/
abbrev Place := List String

/-- What a place is used for: to look something up in a directory, to read and to write a file. -/
inductive FileUse where
  | search
  | read
  | write
deriving DecidableEq, Repr

/-- Directories, files with their texts, what the system refuses, and the working directory.
Whatever contains something is a directory as well. -/
structure Disk where
  directories : List Place
  files : List (Place × String)
  refusals : List ((FileUse × Place) × FileFault)
  here : Place

namespace Disk

/-- The text of the file at a place. -/
def text? (d : Disk) (place : Place) : Option String := d.files.lookup place

/-- True if there is a directory at a place. -/
def isDirectory (d : Disk) (place : Place) : Bool :=
  place.isPrefixOf d.here || d.directories.any place.isPrefixOf ||
    d.files.any fun f => place.isPrefixOf f.1 && f.1 != place

/-- The parts of a path. -/
def parts (path : String) : List String := (Text.splitAt '/' path.toList).map String.ofList

/-- The greatest length of a name. -/
def nameLimit : Nat := 255

/-- The greatest length of a path. -/
def pathLimit : Nat := 4095

/-- Whether the system lets a place be used. -/
def permit (d : Disk) (use : FileUse) (place : Place) : Except FileFault Unit :=
  match d.refusals.lookup (use, place) with
  | some fault => .error fault
  | none => .ok ()

/-- Only directories can be entered. -/
def enter (d : Disk) (place : Place) : Except FileFault Unit :=
  if d.isDirectory place then d.permit .search place
  else if (d.text? place).isSome then .error .notDirectory
  else .error .notFound

/-- The place that one part of a path leads to. -/
def step (d : Disk) (place : Place) (part : String) : Except FileFault Place := do
  d.enter place
  if nameLimit < part.utf8ByteSize then throw .nameTooLong
  return if part = "" ∨ part = "." then place
    else if part = ".." then place.dropLast
    else place ++ [part]

/-- Where a path starts, if it can be followed at all. -/
def start (d : Disk) (path : String) : Except FileFault Place :=
  if path.isEmpty then .error .notFound
  else if pathLimit < path.utf8ByteSize then .error .nameTooLong
  else .ok (if path.startsWith "/" then [] else d.here)

/-- The place that a path leads to. -/
def follow (d : Disk) (path : String) : Except FileFault Place := do
  (parts path).foldlM d.step (← d.start path)

/-- The text of a file. -/
def read (d : Disk) (path : String) : Except FileFault String := do
  let place ← d.follow path
  if d.isDirectory place then
    d.permit .read place
    throw .isDirectory
  match d.text? place with
  | some text =>
    d.permit .read place
    return text
  | none => throw .notFound

/-- True if there is a file or a directory. -/
def holds (d : Disk) (path : String) : Bool :=
  match d.follow path with
  | .ok place => d.isDirectory place || (d.text? place).isSome
  | .error _ => false

/-- Puts a text at a place. -/
def put (d : Disk) (place : Place) (text : String) : Disk :=
  { d with files := (place, text) :: d.files.filter fun f => f.1 != place }

/-- The path without the slashes at its end. -/
def withoutFinalSlash (path : String) : String :=
  String.ofList (path.toList.reverse.dropWhile (· = '/')).reverse

/-- Writes a file, which is created if it is not there yet. No file has a slash behind its name,
and then only the way to it is looked at. -/
def write (d : Disk) (path text : String) : Except FileFault Disk := do
  if path.endsWith "/" then
    let place ← (parts (withoutFinalSlash path)).dropLast.foldlM d.step (← d.start path)
    d.enter place
    throw .isDirectory
  let place ← d.follow path
  if d.isDirectory place then throw .isDirectory
  d.permit .write place
  return d.put place text

/-- The files of a disk that were not there before or had other texts. -/
def changes (before after : Disk) : List (Place × String) :=
  after.files.filter fun f => before.text? f.1 ≠ some f.2

@[simp] theorem text?_put (d : Disk) (place other : Place) (text : String) :
    (d.put place text).text? other = if other = place then some text else d.text? other := by
  simp only [text?, put, List.lookup_cons]
  by_cases h : other = place
  · simp [h]
  · have : (other == place) = false := by simpa using h
    simp only [this, h, if_false]
    induction d.files with
    | nil => rfl
    | cons f fs ih =>
      obtain ⟨p, t⟩ := f
      simp only [bne_iff_ne, ne_eq, List.filter_cons, List.lookup_cons, ← ih]
      by_cases hp : p = place
      · subst hp
        simp [this]
      · simp [hp, List.lookup_cons]

/-- Nothing changes on a disk on which nothing is written. -/
theorem changes_self {d : Disk} (h : ∀ f ∈ d.files, d.text? f.1 = some f.2) :
    d.changes d = [] := by
  simpa [changes] using fun a b hab => h (a, b) hab

end Disk

end MailMerge
