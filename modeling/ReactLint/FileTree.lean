import ReactLint.Linter
import ReactLint.Text.Utf8

/-!
# Files

Files and directories by their place below the root, and the linter's way to a file: a path is
walked name by name, each step from a directory, and what stands at its end is read.  A path that
cannot be read is itself reported, and never keeps other paths from being checked.
-/

namespace ReactLint

open Text

/-- What stands at a place. -/
inductive FileNode where
  | directory
  | file (bytes : List UInt8)
  deriving DecidableEq, Repr

/-- Files and directories.  The working directory and what is above it always exist. -/
structure FileTree where
  workingDirectory : List Text
  nodes : List (List Text × FileNode)
  deriving DecidableEq, Repr

/-- Why a path cannot be read. -/
inductive FileError where
  | notFound
  | notDirectory
  | isDirectory
  /-- A name, or the whole path, has more bytes than any can have. -/
  | nameTooLong
  deriving DecidableEq, Repr

/-- What is said about a path that cannot be read. -/
def FileError.message (e : FileError) (path : Text) : String :=
  let path := String.ofList (quote path)
  match e with
  | notFound => s!"[Errno 2] No such file or directory: {path}"
  | notDirectory => s!"[Errno 20] Not a directory: {path}"
  | isDirectory => s!"[Errno 21] Is a directory: {path}"
  | nameTooLong => s!"[Errno 36] File name too long: {path}"

namespace FileTree

/-- What stands at a place, if anything. -/
def node? (f : FileTree) (place : List Text) : Option FileNode :=
  match f.nodes.lookup place with
  | some n => some n
  | none => if place.isPrefixOf f.workingDirectory then some .directory else none

/-- The place one name further.  The name `..` leads to the directory above. -/
def next (place : List Text) (name : Text) : List Text :=
  if name == "..".toList then place.dropLast else place ++ [name]

/-- The most bytes that a name can have. -/
def maxNameBytes : Nat := 255

/-- The most bytes that a path can have. -/
def maxPathBytes : Nat := 4095

/-- Walks the names from a place on, each from a directory. -/
def walk (f : FileTree) (place : List Text) : List Text → Except FileError (List Text)
  | [] => .ok place
  | name :: rest =>
    match f.node? place with
    | some .directory =>
      if maxNameBytes < (encode name).length then .error .nameTooLong
      else walk f (next place name) rest
    | some (.file _) => .error .notDirectory
    | none => .error .notFound

/-- Where the names of a path are walked from. -/
def start (f : FileTree) (p : Path) : List Text := if p.isAbsolute then [] else f.workingDirectory

/-- The place that a path leads to. -/
def placeOf (f : FileTree) (p : Path) : Except FileError (List Text) :=
  if maxPathBytes < (encode p.toText).length then .error .nameTooLong
  else f.walk (f.start p) p.names

/-- What a path leads to. -/
def find (f : FileTree) (p : Path) : Except FileError FileNode :=
  match f.placeOf p with
  | .error e => .error e
  | .ok place =>
    match f.node? place with
    | some n => .ok n
    | none => .error .notFound

/-- The bytes of the file that a path leads to. -/
def read (f : FileTree) (p : Path) : Except FileError (List UInt8) :=
  match f.find p with
  | .ok (.file bytes) => .ok bytes
  | .ok .directory => .error .isDirectory
  | .error e => .error e

/-- Whether a path leads to a file or directory.  No path that holds a NUL does, and of one that is
too long it cannot be said. -/
def has? (f : FileTree) (p : Path) : Option Bool :=
  if p.toText.contains '\x00' then some false
  else match f.find p with
    | .ok _ => some true
    | .error .nameTooLong => none
    | .error _ => some false

/-- The tree with `n` at a place. -/
def put (f : FileTree) (place : List Text) (n : FileNode) : FileTree :=
  { f with nodes := (place, n) :: f.nodes.filter fun m => m.1 != place }

/-- The place that the names lead to, whether anything stands there or not. -/
def target (f : FileTree) (p : Path) : List Text :=
  p.names.foldl next (f.start p)

/-- The tree with directories at every place that the names pass on their way from `above`. -/
def putParents (f : FileTree) (above : List Text) : List Text → FileTree
  | [] => f
  | name :: rest =>
    let f := if (f.node? above).isSome then f else f.put above .directory
    putParents f (next above name) rest

/-- Puts something where a path leads, and directories on the way. -/
def write (f : FileTree) (p : Path) (n : FileNode) : FileTree :=
  (f.putParents (f.start p) p.names).put (f.target p) n

/-- Removes what stands where a path leads, and everything below. -/
def remove (f : FileTree) (p : Path) : FileTree :=
  { f with nodes := f.nodes.filter fun m => !(f.target p).isPrefixOf m.1 }

end FileTree

namespace Linter

/-- The issue on a file that cannot be read. -/
def unreadable (e : FileError) (path : Text) : Issue :=
  let message := e.message path
  ⟨1, s!"Could not read file: {message}", .error, "file-read", true⟩

/-- The log entry on a file that cannot be read. -/
def unreadableEntry (e : FileError) (path : Text) : LogEntry :=
  let message := e.message path
  let path := String.ofList path
  ⟨.warning, .linter, s!"Could not read {path}: {message}"⟩

/-- Checks the file that a path leads to. -/
def checkFile (l : Linter) (f : FileTree) (p : Path) : Findings :=
  match f.read p with
  | .ok bytes => l.check ⟨p.toText, ofFileBytes bytes⟩
  | .error e => ⟨[unreadable e p.toText], [unreadableEntry e p.toText]⟩

/-- Why a list of paths cannot be checked: one of them holds a NUL. -/
inductive PathError where
  | embeddedNul
  deriving DecidableEq, Repr

/-- What is said about such a path. -/
def PathError.message : PathError → String
  | embeddedNul => "embedded null byte"

/-- Checks the files that the paths lead to, each distinct path once and at its first place. -/
def checkFiles (l : Linter) (f : FileTree) (paths : List Text) :
    Except PathError (List (Path × List Issue)) :=
  if paths.any (·.contains '\x00') then .error .embeddedNul
  else .ok ((paths.map Path.ofText).eraseDups.map fun p => (p, (l.checkFile f p).issues))

end Linter

end ReactLint
