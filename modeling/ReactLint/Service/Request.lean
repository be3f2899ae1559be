import ReactLint.Number.Integer
import ReactLint.Service.Body
import ReactLint.Thresholds

/-!
# Requests

What a client may ask for, read from the body of a request.  Reading a body collects every fault in
it: the fields in the order in which they are declared, then names that are not known.  Fields are
read by Pydantic's rules, and faults described in its words (`Service.Framework`).

**Texts.**  A text is made of characters, and half of a surrogate pair is none.  A text that holds
such a half is read with a replacement character in its place (`Value.illFormed`), and the half is
forgotten with the value.  An answer that shows it could not be written.  This is followed for
faults, which keep the value (`Response.isWritable`), and not for what a check finds: the answer to
a check is meant for bodies whose texts are well-formed.
-/

namespace ReactLint

open Text

/-- A step from the body to a part of it. -/
inductive BodyStep where
  | field (name : Text)
  | index (i : Nat)
  deriving DecidableEq, Repr

/-- A fault, where in the body it is, and what was found there.  For a part that is missing, that is
what it is missing from. -/
structure Fault where
  kind : FaultKind
  place : List BodyStep
  found : Value

namespace Fault

/-- A step as text; a name that holds a point is set off by backquotes. -/
def stepText : BodyStep → Text
  | .field name => if name.contains '.' then "`".toList ++ name ++ "`".toList else name
  | .index i => (toString i).toList

/-- The line that tells a place, its steps with points between them; none for the whole. -/
def placeLine (place : List BodyStep) : Text :=
  if place.isEmpty then [] else List.intercalate ['.'] (place.map stepText) ++ ['\n']

/-- The start of a text, as far as it fits into this many bytes. -/
def within : Nat → Text → Text
  | _, [] => []
  | n, c :: cs =>
    let size := (encodeChar c).length
    if size ≤ n then c :: within (n - size) cs else []

/-- A text without its middle when it has too many bytes to be shown. -/
def shorten (t : Text) : Text :=
  if (encode t).length ≤ shownBytes then t
  else within frontBytes t ++ "...".toList ++ (within endBytes t.reverse).reverse

/-- A fault as text: where it is, what is wrong, what was found, and where to read about it. -/
def toText (f : Fault) : String :=
  let place := String.ofList (placeLine f.place)
  let message := f.kind.message
  let label := f.kind.label
  let found := String.ofList (shorten f.found.toText)
  let type := f.found.typeName
  let page := f.kind.page
  s!"{place}  {message} [type={label}, input_value={found}, input_type={type}]\n" ++
    s!"    For further information visit {page}"

/-- All faults of a part as text. -/
def report (part : String) (faults : List Fault) : String :=
  let count := faults.length
  let errors := if count = 1 then "error" else "errors"
  "\n".intercalate (s!"{count} validation {errors} for {part}" :: faults.map toText)

end Fault

/-- What is read from a part of a body, or all faults in it. -/
abbrev Checked (α : Type) := Except (List Fault) α

namespace Checked

/-- Both parts, or the faults of both. -/
def both {α β : Type} (a : Checked α) (b : Checked β) : Checked (α × β) :=
  match a, b with
  | .ok a, .ok b => .ok (a, b)
  | .ok _, .error f => .error f
  | .error e, .ok _ => .error e
  | .error e, .error f => .error (e ++ f)

/-- All parts, or the faults of all. -/
def all {α : Type} : List (Checked α) → Checked (List α)
  | [] => .ok []
  | a :: rest => (both a (all rest)).map fun (a, rest) => a :: rest

/-- One fault. -/
def fault {α : Type} (kind : FaultKind) (place : List BodyStep) (found : Value) : Checked α :=
  .error [⟨kind, place, found⟩]

end Checked

/-- Limits that a request replaces. -/
abbrev Overrides := Limit → Option Int

/-- A request to check one file: its code and name, or the path where it is stored. -/
structure CheckRequest where
  code : Option Text
  fileName : Option Text
  filePath : Option Text
  overrides : Overrides

/-- One file of a request to check several. -/
structure CodeFile where
  code : Text
  fileName : Text
  deriving DecidableEq, Repr

/-- A request to check several files. -/
structure BatchRequest where
  files : List CodeFile
  overrides : Overrides

namespace Request

/-- A text that may be left out. -/
def optionalText (place : List BodyStep) : Option Value → Checked (Option Text)
  | none | some .null => .ok none
  | some (.text t) | some (.illFormed t) => .ok (some t)
  | some v => .fault .notText place v

/-- A text that must be there, as a member of an object. -/
def requiredText (place : List BodyStep) (members : List (Text × Value)) (name : String) :
    Checked Text :=
  let place := place ++ [.field name.toList]
  match Value.member? name.toList members with
  | none => .fault .missing place (.object members)
  | some (.text t) | some (.illFormed t) => .ok t
  | some v => .fault .notText place v

/-- The integer that a value gives. -/
def integer (place : List BodyStep) : Value → Checked Int
  | .integer n => .ok n
  | .bool b => .ok (if b then 1 else 0)
  | .real x =>
    match x.truncate? with
    | none => .fault .notFinite place (.real x)
    | some n =>
      if !x.isWhole then .fault .fractional place (.real x)
      else if n.natAbs < realBound then .ok n
      else .fault .oversizedInteger place (.real x)
  | .text t =>
    if startsOversized t then .fault .oversizedInteger place (.text t)
    else match readWhole? t with
      | some n => .ok n
      | none => .fault .unreadableInteger place (.text t)
  | v => .fault .notInteger place v

/-- A limit that may be left out. -/
def limit (place : List BodyStep) : Option Value → Checked (Option Int)
  | none | some .null => .ok none
  | some v =>
    match integer place v with
    | .error e => .error e
    | .ok n => if n ≤ 0 then .fault .notPositive place v else .ok (some n)

/-- The faults of members whose names are not those of limits. -/
def unknownLimits (place : List BodyStep) (members : List (Text × Value)) : Checked Unit :=
  match members.filter fun m => (Limit.ofOption? m.1).isNone with
  | [] => .ok ()
  | unknown => .error (unknown.map fun m => ⟨.unknownName, place ++ [.field m.1], m.2⟩)

/-- Limits that may be left out. -/
def overrides (place : List BodyStep) : Option Value → Checked Overrides
  | none | some .null => .ok fun _ => none
  | some (.object members) =>
    let limits := Checked.all (Limit.all.map fun l =>
      let name := l.option.toList
      (limit (place ++ [.field name]) (Value.member? name members)).map (l, ·))
    (Checked.both limits (unknownLimits place members)).map fun (limits, _) l =>
      (limits.lookup l).join
  | some v => .fault .notObject place v

/-- The place of the body. -/
def bodyPlace : List BodyStep := [.field "body".toList]

/-- The place of a field of the body. -/
def fieldPlace (name : String) : List BodyStep := bodyPlace ++ [.field name.toList]

/-- Reads a request to check one file. -/
def check : Value → Checked CheckRequest
  | .object members =>
    let part := fun (name : String) => Value.member? name.toList members
    let code := optionalText (fieldPlace "code") (part "code")
    let fileName := optionalText (fieldPlace "filename") (part "filename")
    let filePath := optionalText (fieldPlace "file_path") (part "file_path")
    let limits := overrides (fieldPlace "thresholds") (part "thresholds")
    (Checked.both code (Checked.both fileName (Checked.both filePath limits))).map
      fun (code, fileName, filePath, limits) => ⟨code, fileName, filePath, limits⟩
  | v => .fault .notObject bodyPlace v

/-- Reads one file of a request to check several. -/
def codeFile (place : List BodyStep) : Value → Checked CodeFile
  | .object members =>
    (Checked.both (requiredText place members "code") (requiredText place members "filename")).map
      fun (code, fileName) => ⟨code, fileName⟩
  | v => .fault .notObject place v

/-- Reads the files of a request to check several; none when they are left out. -/
def codeFiles (place : List BodyStep) : Option Value → Checked (List CodeFile)
  | none => .ok []
  | some (.list items) =>
    Checked.all (items.zipIdx.map fun (v, i) => codeFile (place ++ [.index i]) v)
  | some v => .fault .notList place v

/-- Reads a request to check several files. -/
def batch : Value → Checked BatchRequest
  | .object members =>
    let part := fun (name : String) => Value.member? name.toList members
    let files := codeFiles (fieldPlace "files") (part "files")
    let limits := overrides (fieldPlace "thresholds") (part "thresholds")
    (Checked.both files limits).map fun (files, limits) => ⟨files, limits⟩
  | v => .fault .notObject bodyPlace v

end Request

end ReactLint
