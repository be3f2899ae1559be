import ReactLint.Text.Scan

/-!
# Paths

A path is a root mark and a list of names.  Empty names and `.` say nothing and are dropped; `..`
is a name like any other.  A path that starts with exactly two slashes keeps both in its root.

The linter never opens a path: it reads the folders and the file name off it to decide which rules
apply.  For that purpose a backslash separates names as a slash does.
-/

namespace ReactLint

open Text

/-- A path: its root mark, empty for a relative path, and its names. -/
structure Path where
  root : Text
  names : List Text
  deriving DecidableEq, Repr

namespace Path

/-- The root mark of a written path. -/
def rootOf : Text → Text
  | '/' :: '/' :: '/' :: _ => ['/']
  | '/' :: '/' :: _ => ['/', '/']
  | '/' :: _ => ['/']
  | _ => []

/-- Whether a name says something. -/
def isName (n : Text) : Bool := n != [] && n != ['.']

/-- Reads a written path. -/
def ofText (t : Text) : Path := ⟨rootOf t, (t.splitOn '/').filter isName⟩

/-- Writes a path; one without root and names is the current directory. -/
def toText (p : Path) : Text :=
  if p.root.isEmpty && p.names.isEmpty then ['.'] else p.root ++ List.intercalate ['/'] p.names

/-- Whether the path starts at the root. -/
def isAbsolute (p : Path) : Bool := !p.root.isEmpty

/-- The root mark, when there is one, and the names. -/
def parts (p : Path) : List Text := if p.root.isEmpty then p.names else p.root :: p.names

/-- The last name, empty when there is none. -/
def fileName (p : Path) : Text := p.names.getLastD []

/-- What stands before the last part. -/
def folders (p : Path) : List Text := p.parts.dropLast

end Path

/-- The path with slashes only. -/
def withSlashes (path : Text) : Text := replaceChar '\\' '/' path

/-- Whether a folder of the path has exactly this name. -/
def isInFolder (path folder : Text) : Bool :=
  (Path.ofText (withSlashes path)).folders.contains folder

/-- Whether a folder of the path is the one that a rule names. -/
def inFolder (path : Text) (folder : String) : Bool := isInFolder path folder.toList

/-- The file name of a path. -/
def fileNameOf (path : Text) : Text := (Path.ofText (withSlashes path)).fileName

/-- Whether a text ends in `w`. -/
def endsIn (w : String) (t : Text) : Bool := w.toList.isSuffixOf t

/-- Whether a name has the extension of a component file. -/
def hasComponentExtension (name : Text) : Bool := endsIn ".tsx" name || endsIn ".jsx" name

/-- A component file: one with a component's extension, outside `hooks`, and no test or story. -/
def isComponentFile (path : Text) : Bool :=
  let name := fileNameOf path
  hasComponentExtension name &&
    !([".test.", ".spec.", ".stories."].any fun mark => mentions mark name) &&
    !inFolder path "hooks"

/-- Whether the path, as written, ends in `components` and a file of a component's extension. -/
def isDirectComponent (path : Text) : Bool :=
  match ((withSlashes path).splitOn '/').reverse with
  | file :: folder :: _ =>
    folder == "components".toList && hasComponentExtension file && 4 < file.length
  | _ => false

end ReactLint
