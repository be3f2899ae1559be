import ReactLint.Text.Scan

/-!
# Disabled code

A `//` comment whose body reads like a statement is disabled code rather than prose.  Ten shapes of
a body count as code; each is a recogniser on the body, which is trimmed and on one line.
-/

namespace ReactLint.DisabledCode

open Text

/-- The trimmed body of a comment line.  There is none when the line is no `//` comment, or when
the comment does not end with the text. -/
def body? (line : Text) : Option Text := do
  let rest ← blanksThen? "//" line
  let rest := (oneOf? isBlank rest).getD rest
  match rest.dropWhile (· != '\n') with
  | [] | ['\n'] => some (trim (rest.takeWhile (· != '\n')))
  | _ => none

/-- A character between the keyword of a binding and its equals sign. -/
def isBindingChar (c : Char) : Bool := isIdent c || isBlank c || "[]{},:<>".toList.contains c

/-- A character of a dotted name. -/
def isDotted (c : Char) : Bool := isIdent c || c == '.'

/-- A character of an assignment's target. -/
def isTarget (c : Char) : Bool := isDotted c || c == '[' || c == ']'

/-- A binding: `const`, `let` or `var`, a blank, something bound, and an equals sign. -/
def isBinding (t : Text) : Bool :=
  ((skipAny? ["const", "let", "var"] t).bind (oneOf? isBlank)).any fun t =>
    ((run? isBindingChar t).bind fun (_, t) => skip? "=" t).isSome

/-- The head of a control statement. -/
def isControl (t : Text) : Bool :=
  (["if", "for", "while", "switch", "catch"].findSome? fun w =>
    (skip? w t).bind (blanksThen? "(")).isSome

/-- A `from` clause with its quoted module. -/
def isFromClause (p : Place) : Bool :=
  ((p.word? "from").bind blanks?).any fun t => t.head?.any isQuote

/-- An `import` or `export` with a `from` clause, a brace, an equals sign or a semicolon. -/
def isModuleStatement (t : Text) : Bool :=
  ((skipAny? ["import", "export"] t).bind (oneOf? isBlank)).any fun t =>
    t.any (fun c => c == '{' || c == '=' || c == ';') ||
      (placesAfter (some ' ') t).any isFromClause

/-- A `return` that ends in a semicolon or an opening delimiter. -/
def isReturn (t : Text) : Bool :=
  (skip? "return" t).any fun t =>
    endsWord t && t.getLast?.any fun c => c == ';' || c == '(' || c == '{'

/-- A call that is awaited, thrown or constructed. -/
def isKeywordCall (t : Text) : Bool :=
  (keywordAny? ["await", "throw", "new"] t).any fun t =>
    ((run? isDotted t).bind fun (_, t) => blanksThen? "(" t).isSome

/-- The head of a function. -/
def isFunctionHead (t : Text) : Bool :=
  (skip? "function" (optionalKeyword "async" t)).any fun t =>
    (blanksThen? "(" ((trimStart t).dropWhile isWord)).isSome

/-- The text without a semicolon at its end. -/
def dropSemicolon (t : Text) : Text := if t.getLast? = some ';' then t.dropLast else t

/-- A call that ends the body, with or without a semicolon. -/
def isCall (t : Text) : Bool :=
  ((run? isDotted t).bind fun (_, t) => blanksThen? "(" t).any fun t =>
    (trimEnd (dropSemicolon t)).getLast? = some ')'

/-- An assignment, plain or with an arithmetic operator. -/
def isAssignment (t : Text) : Bool :=
  (run? isTarget t).any fun (_, t) =>
    let t := trimStart t
    let t := (oneOf? (fun c => c == '+' || c == '-' || c == '*' || c == '/') t).getD t
    (skip? "=" t).any fun t => (trimStart t).head?.any (· != '=')

/-- A body that ends in a semicolon or a brace. -/
def endsStatement (t : Text) : Bool := t.getLast?.any fun c => c == ';' || c == '{' || c == '}'

/-- A markup tag, opening or closing. -/
def isTag (t : Text) : Bool :=
  (skip? "<" t).any fun t =>
    ((oneOf? Char.isAlpha ((skip? "/" t).getD t)).any fun t =>
      let t := t.dropWhile fun c => isWord c || c == '.'
      starts ">" t || starts "/>" t || ((oneOf? isBlank t).any fun t => t.contains '>'))

/-- The shapes of a body that count as code. -/
def shapes : List (Text → Bool) :=
  [isBinding, isControl, isModuleStatement, isReturn, isKeywordCall, isFunctionHead, isCall,
    isAssignment, endsStatement, isTag]

/-- Whether a comment line holds disabled code. -/
def isDisabledCode (line : Text) : Bool :=
  (body? line).any fun body => !body.isEmpty && shapes.any fun shape => shape body

end ReactLint.DisabledCode
