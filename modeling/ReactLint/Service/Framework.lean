import ReactLint.Text.Quoted

/-!
# What the service is built on

The service leaves much of its work to other components.  How much these accept, and the words in
which they refuse, are theirs: the service lays none of it down, and another version of a component
may have it otherwise.  All such limits and texts stand in this file, under the component that they
come from, so that a change of version is a change of this file alone.

* **httpx**, which sends a request, takes its address apart.
* **The runtime** reads JSON notation.
* **Pydantic** reads the fields of a body and describes their faults.
* **FastAPI** finds the route of a request and writes the answer.
-/

namespace ReactLint

open Text

/-! ## httpx: addresses -/

/-- Why an address cannot be used. -/
inductive AddressError where
  | tooLong
  /-- A control character of ASCII, and where it stands. -/
  | unprintable (c : Char) (position : Nat)
  /-- A relative address whose path starts with two slashes. -/
  | doubleSlash
  /-- A relative address whose path starts with a colon. -/
  | leadingColon
  | badPort (written : Text)
  /-- The scheme of an absolute address that is not spoken. -/
  | unknownScheme (scheme : Text)
  deriving DecidableEq, Repr

/-- What is said about an address that cannot be used. -/
def AddressError.message : AddressError → String
  | tooLong => "URL too long"
  | unprintable c position =>
    let shown := String.ofList (quote [c])
    s!"Invalid non-printable ASCII character in URL, {shown} at position {position}."
  | doubleSlash => "Relative URLs cannot have a path starting with '//'"
  | leadingColon => "Relative URLs cannot have a path starting with ':'"
  | badPort written =>
    let shown := String.ofList (quote written)
    s!"Invalid port: {shown}"
  | unknownScheme scheme => String.ofList (quote scheme)

/-- The most characters that an address can have. -/
def Address.maxLength : Nat := 65536

/-- The schemes that are spoken. -/
def Address.schemes : List String := ["http", "https", "ws", "wss"]

/-! ## The runtime: JSON notation -/

/-- How deep lists and objects may be nested in a body.  The reader calls itself for each of them,
and this is how far its stack reaches inside a request. -/
def Body.maxDepth : Nat := 965

/-- What is said about an answer without content where one in JSON notation is expected. -/
def noContentText : String := "Expecting value: line 1 column 1 (char 0)"

/-! ## Pydantic: fields -/

/-- What can be wrong with a part of a body. -/
inductive FaultKind where
  | missing
  | notJson
  | notObject
  | notText
  | notList
  | notInteger
  | fractional
  | notFinite
  | unreadableInteger
  | oversizedInteger
  | notPositive
  | unknownName
  deriving DecidableEq, Repr

namespace FaultKind

/-- The name of a kind of fault. -/
def label : FaultKind → String
  | missing => "missing"
  | notJson => "json_invalid"
  | notObject => "model_attributes_type"
  | notText => "string_type"
  | notList => "list_type"
  | notInteger => "int_type"
  | fractional => "int_from_float"
  | notFinite => "finite_number"
  | unreadableInteger => "int_parsing"
  | oversizedInteger => "int_parsing_size"
  | notPositive => "greater_than"
  | unknownName => "extra_forbidden"

/-- What is said about a fault. -/
def message : FaultKind → String
  | missing => "Field required"
  | notJson => "JSON decode error"
  | notObject => "Input should be a valid dictionary or object to extract fields from"
  | notText => "Input should be a valid string"
  | notList => "Input should be a valid list"
  | notInteger => "Input should be a valid integer"
  | fractional => "Input should be a valid integer, got a number with a fractional part"
  | notFinite => "Input should be a finite number"
  | unreadableInteger => "Input should be a valid integer, unable to parse string as an integer"
  | oversizedInteger => "Unable to parse input string as an integer, exceeded maximum size"
  | notPositive => "Input should be greater than 0"
  | unknownName => "Extra inputs are not permitted"

/-- Where to read about a kind of fault.  The address holds the version at hand. -/
def page (k : FaultKind) : String := "https://errors.pydantic.dev/2.14/v/" ++ k.label

end FaultKind

/-- The most bytes of what was found that a fault shows as they are. -/
def Fault.shownBytes : Nat := 50

/-- How many bytes a fault shows of the front of what was found, when it is longer. -/
def Fault.frontBytes : Nat := 25

/-- How many bytes a fault shows of the end of what was found, when it is longer. -/
def Fault.endBytes : Nat := 24

/-- The largest magnitude, exclusive, of an integer given as a real number. -/
def Request.realBound : Nat := Nat.pow 2 63

/-! ## FastAPI: routes and answers -/

namespace Response

/-- What is said when a path has no route. -/
def noRouteText : String := "Not Found"

/-- What is said when a route has another method. -/
def otherMethodText : String := "Method Not Allowed"

/-- What is said when a body cannot be decoded. -/
def unreadableBodyText : String := "There was an error parsing the body"

/-- What is said when no answer could be made. -/
def failureText : String := "Internal Server Error"

/-- The media type of answers in JSON notation. -/
def jsonType : String := "application/json"

/-- The media type of a text, with its encoding. -/
def textType (kind : String) : String := "text/" ++ kind ++ "; charset=utf-8"

end Response

end ReactLint
