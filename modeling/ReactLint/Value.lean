import ReactLint.Number.Shortest
import ReactLint.Text.Quoted

/-!
# Values

The values that option lists and request bodies are made of.  The members of an object are kept in
the order in which they are written.  `Value.show` is how a message shows a value.
-/

namespace ReactLint

/-- A value as it comes from outside. -/
inductive Value where
  | null
  | bool (b : Bool)
  | integer (n : Int)
  | real (x : Binary64)
  | text (t : Text)
  /-- A text in which code units stand that encode no character; each is replaced, and which units
  they were is not kept. -/
  | illFormed (t : Text)
  | list (items : List Value)
  | object (members : List (Text × Value))

namespace Value

/-- The texts with a comma and a space between them. -/
def commaSeparated (ts : List Text) : Text := List.intercalate [',', ' '] ts

/-- The decimal text of an integer. -/
def integerText (n : Int) : Text := (toString n).toList

mutual

/-- The value as a message shows it. -/
def toText : Value → Text
  | null => "None".toList
  | bool b => (if b then "True" else "False").toList
  | integer n => integerText n
  | real x => x.toText
  | text t | illFormed t => Text.quote t
  | list items => '[' :: commaSeparated (itemTexts items) ++ [']']
  | object members => '{' :: commaSeparated (memberTexts members) ++ ['}']

/-- The items of a list as a message shows them. -/
def itemTexts : List Value → List Text
  | [] => []
  | v :: vs => toText v :: itemTexts vs

/-- The members of an object as a message shows them. -/
def memberTexts : List (Text × Value) → List Text
  | [] => []
  | (name, v) :: rest => (Text.quote name ++ ':' :: ' ' :: toText v) :: memberTexts rest

end

/-- What a message calls the kind of a value. -/
def typeName : Value → String
  | null => "NoneType"
  | bool _ => "bool"
  | integer _ => "int"
  | real _ => "float"
  | text _ | illFormed _ => "str"
  | list _ => "list"
  | object _ => "dict"

/-- The value of a text read character by character, where a code unit that encodes none has
none. -/
def ofChars (cs : List (Option Char)) : Value :=
  let t := cs.map (·.getD '\ufffd')
  if cs.all Option.isSome then text t else illFormed t

mutual

/-- Whether the value can be written in JSON notation: every number in it is finite, and every text
well-formed. -/
def isWritable : Value → Bool
  | real (.finite ..) => true
  | real _ => false
  | illFormed _ => false
  | list items => areWritable items
  | object members => membersWritable members
  | _ => true

/-- Whether all items can be written. -/
def areWritable : List Value → Bool
  | [] => true
  | v :: vs => isWritable v && areWritable vs

/-- Whether all members can be written. -/
def membersWritable : List (Text × Value) → Bool
  | [] => true
  | (_, v) :: rest => isWritable v && membersWritable rest

end

/-- The value of a member. -/
def member? (name : Text) (members : List (Text × Value)) : Option Value := members.lookup name

/-- Sets a member: a name that is there already keeps its place and takes the new value. -/
def setMember (name : Text) (v : Value) : List (Text × Value) → List (Text × Value)
  | [] => [(name, v)]
  | (n, w) :: rest => if n = name then (n, v) :: rest else (n, w) :: setMember name v rest

end Value

end ReactLint
