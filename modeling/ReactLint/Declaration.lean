import ReactLint.Block
import ReactLint.Source

/-!
# Declarations

Constants, components and types that a file declares, each recognised on its trimmed line.
-/

namespace ReactLint

open Text

namespace Declaration

/-- A letter of a constant's name. -/
def isConstantLetter (c : Char) : Bool := isCapital c || c == '_'

/-- What follows `const` on a trimmed line, exported or not. -/
def afterConst? (t : Text) : Option Text := keyword? "const" (optionalKeyword "export" t)

/-- What may follow a declared name: an equals sign, or the colon before a type. -/
def isValueMark (c : Char) : Bool := c == '=' || c == ':'

/-- The upper-case constant that a line declares, with or without a type. -/
def constantName? (line : Text) : Option Text := do
  let t ← afterConst? (trim line)
  let (name, rest) ← run? (fun c => isConstantLetter c || c.isDigit) t
  if name.head?.any isConstantLetter && (trimStart rest).head?.any isValueMark then some name
  else none

/-- The constants of a file, each with the number of its lines.  A value is measured by the first
delimiter on its line. -/
def constants (lines : List Text) : List (Located Measured) :=
  locate (fun l ls => ((constantName? l).map fun name =>
    ⟨name, extent ((Delimiter.firstOn? l).getD .braceOrParen) (l :: ls) + 1⟩).toList) lines

/-- The constant that a line declares without type or digits, in two letters or more. -/
def plainConstantName? (line : Text) : Option Text := do
  let t ← afterConst? (trim line)
  let (name, rest) ← run? isConstantLetter t
  if 2 ≤ name.length && starts "=" (trimStart rest) then some name else none

/-- The constants that are declared without type or digits. -/
def plainConstants (lines : List Text) : List (Located Text) := locateOn plainConstantName? lines

/-- A component's name, a capital and one word character at least, and what follows it. -/
def componentName? (t : Text) : Option (Text × Text) :=
  (run? isWord t).bind fun (name, rest) =>
    if name.head?.any isCapital && 2 ≤ name.length then some (name, rest) else none

/-- The component that a trimmed line declares as a function. -/
def functionComponent? (t : Text) : Option Text :=
  (keyword? "function" (optionalKeyword "default" (optionalKeyword "export" t))).bind fun t =>
    (componentName? t).bind fun (name, rest) => (blanksThen? "(" rest).map fun _ => name

/-- Whether an arrow function's parameter list and arrow stand at the start of the text. -/
def isArrowHead (t : Text) : Bool :=
  (skip? "(" t).any fun t => (skip? ")" (t.dropWhile (· != ')'))).any fun t =>
    (blanksThen? "=>" t).isSome

/-- Whether a value that makes a component stands at the start of the text. -/
def isComponentValue (t : Text) : Bool :=
  isArrowHead t ||
    (skipAny? ["React.FC", "React.memo", "React.forwardRef", "forwardRef", "memo("] t).isSome

/-- The component that a trimmed line binds to a value or gives a component's type. -/
def valueComponent? (t : Text) : Option Text := do
  let t ← afterConst? t
  let (name, rest) ← componentName? t
  let t ← oneOf? isValueMark (trimStart rest)
  if isComponentValue (trimStart t) then some name else none

/-- The component that a line declares. -/
def component? (line : Text) : Option Text :=
  let t := trim line
  (functionComponent? t).or (valueComponent? t)

/-- The components of a file. -/
def components (lines : List Text) : List (Located Text) := locateOn component? lines

/-- The type or interface that a line declares. -/
def typeName? (line : Text) : Option Text :=
  ((keywordAny? ["type", "interface"]
    (optionalKeyword "declare" (optionalKeyword "export" (trim line)))).bind (run? isWord)).map
      Prod.fst

/-- The type declarations of a file, each with the number of its lines. -/
def types (lines : List Text) : List (Located Measured) :=
  locate (fun l ls => ((typeName? l).map fun name =>
    ⟨name, extent .braceOrParen (l :: ls) + 1⟩).toList) lines

end Declaration

end ReactLint
