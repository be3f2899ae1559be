import ReactLint.Text.Scan
import ReactLint.Source

/-!
# Imports

An import statement starts on a line that begins with `import` and goes on until its text holds a
`from` clause, or to the end of the file.  Its text is the single-space join of its trimmed lines.
An import for its side effects alone binds nothing and is no statement here.

The names a statement binds are those in its first pair of braces, its default binding and its
namespace binding, in that order.  A name is used when it stands, as a whole identifier, somewhere
after the statement.
-/

namespace ReactLint

open Text

/-- One import statement: its text, its first line, and the index of its last. -/
structure ImportStatement where
  text : Text
  line : Nat
  lastIndex : Nat
  deriving DecidableEq, Repr

namespace ImportStatement

/-- Whether a trimmed line starts an import that binds names. -/
def isStart (trimmed : Text) : Bool :=
  (keyword? "import" trimmed).any fun t => !t.head?.any isQuote

/-- Whether the text has its `from` clause. -/
def hasFrom (t : Text) : Bool := mentions " from " t

/-- Joins following lines to the text until it has its `from` clause.  Returns the text and how many
lines were joined. -/
def gather (t : Text) : List Text → Text × Nat
  | [] => (t, 0)
  | l :: ls =>
    if hasFrom t then (t, 0)
    else
      let (whole, joined) := gather (t ++ ' ' :: trim l) ls
      (whole, joined + 1)

/-- The statements among the lines from index `i` on, the first `skip` of which belong to the last
statement. -/
def collectFrom (i skip : Nat) : List Text → List ImportStatement
  | [] => []
  | l :: ls =>
    match skip with
    | skip + 1 => collectFrom (i + 1) skip ls
    | 0 =>
      if isStart (trim l) then
        let (whole, joined) := gather (trim l) ls
        ⟨whole, i + 1, i + joined⟩ :: collectFrom (i + 1) joined ls
      else collectFrom (i + 1) 0 ls

/-- The import statements of a file. -/
def collect (lines : List Text) : List ImportStatement := collectFrom 0 0 lines

end ImportStatement

namespace Import

/-- What follows the word `as` between blanks, at a place where blanks start. -/
def afterAs? (t : Text) : Option Text := ((blanks? t).bind (skip? "as")).bind blanks?

/-- The text after its last renaming, reading from left to right: one that shares its blanks with
the renaming before it does not count.  `skip` characters belong to the last renaming, and `last`
is the text after it. -/
def afterRenamings (last : Text) (skip : Nat) : Text → Text
  | [] => last
  | c :: cs =>
    match skip with
    | skip + 1 => afterRenamings last skip cs
    | 0 =>
      match afterAs? (c :: cs) with
      | some rest => afterRenamings rest (cs.length - rest.length) cs
      | none => afterRenamings last 0 cs

/-- The name that one entry between the braces binds, if any. -/
def entryName? (entry : Text) : Option Text :=
  let entry := trim entry
  let name := trim (afterRenamings entry 0 entry)
  let name := ((skip? "type " name).map trim).getD name
  if name.isEmpty || name == "type".toList then none else some name

/-- The text between the first pair of braces that holds anything. -/
def braces? (t : Text) : Option Text :=
  search? (fun p => (skip? openBrace p.rest).bind fun t =>
    (run? (· != '}') t).bind fun (inner, rest) =>
      if starts closeBrace rest then some inner else none) t

/-- The names bound between braces. -/
def namedBindings (t : Text) : List Text :=
  ((braces? t).map fun inner => (inner.splitOn ',').filterMap entryName?).getD []

/-- Whether a default binding may end here: a comma or a `from` follows. -/
def endsDefault (t : Text) : Bool := starts "," (trimStart t) || (blanks? t).any (starts "from")

/-- An identifier that a default binding may be. -/
def defaultName? (t : Text) : Option Text :=
  (identifier? t).bind fun (name, rest) => if endsDefault rest then some name else none

/-- The default binding of a statement, if any; a lone `type` is none. -/
def defaultBinding? (t : Text) : Option Text :=
  ((keyword? "import" t).bind fun t =>
    ((keyword? "type" t).bind defaultName?).or (defaultName? t)).filter (· != "type".toList)

/-- The namespace binding of a statement, if any. -/
def namespaceBinding? (t : Text) : Option Text :=
  search? (fun p => ((((skip? "*" p.rest).bind blanks?).bind (keyword? "as")).bind identifier?).map
    Prod.fst) t

/-- The names that a statement binds. -/
def names (t : Text) : List Text :=
  namedBindings t ++ (defaultBinding? t).toList ++ (namespaceBinding? t).toList

/-- Whether `name` stands in the text as a whole identifier. -/
def isUsed (name : Text) (t : Text) : Bool :=
  anywhere (fun p => !p.before.any isIdent &&
    (after? name p.rest).any fun rest => !rest.head?.any isIdent) t

/-- The names of a file's imports that are not used after their statement. -/
def unused (lines : List Text) : List (Located Text) :=
  (ImportStatement.collect lines).flatMap fun s =>
    let rest := unlines (lines.drop (s.lastIndex + 1))
    ((names s.text).filter fun name => !isUsed name rest).map fun name => ⟨s.line, name⟩

end Import

end ReactLint
