import ReactLint.Number.Integer
import ReactLint.Service.Framework

/-!
# Addresses

Where a request goes.  An address is absolute, with a scheme and a host, or relative to the service.
What counts in the end is its path: without query and fragment, with `.` and `..` resolved, and with
percent signs read.  The service looks at the path alone, so an absolute address leads to it
whatever host it names.

An address is taken apart as httpx does it, with the limits and texts of `Service.Framework`.
-/

namespace ReactLint

open Text

/-- The parts of an address that its path depends on. -/
structure Address where
  scheme : Text
  user : Text
  host : Text
  port : Text
  path : Text
  deriving DecidableEq, Repr

namespace Address

/-! ## Parts -/

/-- Whether a character may stand in a scheme, after its first letter. -/
def isSchemeChar (c : Char) : Bool := c.isAlphanum || c == '+' || c == '.' || c == '-'

/-- The scheme in front of a colon, which may be empty, and what follows; no scheme when no colon
follows it. -/
def splitScheme (t : Text) : Text × Text :=
  let scheme := if t.head?.any Char.isAlpha then t.takeWhile isSchemeChar else []
  match t.drop scheme.length with
  | ':' :: rest => (scheme, rest)
  | _ => ([], t)

/-- What stands between two slashes and the path, and what follows. -/
def splitAuthority : Text → Text × Text
  | '/' :: '/' :: rest => rest.span fun c => c != '/' && c != '?' && c != '#'
  | t => ([], t)

/-- The text up to the last `@`, and what follows it. -/
def splitUser (t : Text) : Text × Text :=
  let host := (t.reverse.takeWhile (· != '@')).reverse
  (t.take (t.length - host.length - 1), host)

/-- A host, which may stand in brackets, and what follows. -/
def splitHost (t : Text) : Text × Text :=
  let bracketed := t.reverse.dropWhile (· != ']') |>.reverse
  if t.head? == some '[' && !bracketed.isEmpty then (bracketed, t.drop bracketed.length)
  else t.span fun c => c != ':'

/-- The port that follows a host. -/
def portOf : Text → Text
  | ':' :: port => port
  | t => t

/-- Takes an address apart. -/
def ofText (t : Text) : Address :=
  let (scheme, t) := splitScheme t
  let (authority, t) := splitAuthority t
  let (user, authority) := splitUser authority
  let (host, authority) := splitHost authority
  ⟨scheme, user, host, portOf authority, t.takeWhile fun c => c != '?' && c != '#'⟩

/-- Whether the address says anything about a host. -/
def hasAuthority (a : Address) : Bool := !(a.user.isEmpty && a.host.isEmpty && a.port.isEmpty)

/-- Whether the address names both scheme and host. -/
def isAbsolute (a : Address) : Bool := !a.scheme.isEmpty && !a.host.isEmpty

/-- What is wrong with the parts of an address, if anything. -/
def fault? (a : Address) : Option AddressError :=
  if !a.port.isEmpty && (readInteger? a.port).isNone then some (.badPort a.port)
  else if a.scheme.isEmpty && !a.hasAuthority && starts "//" a.path then some .doubleSlash
  else if a.scheme.isEmpty && !a.hasAuthority && starts ":" a.path then some .leadingColon
  else
    let scheme := a.scheme.map Char.toLower
    if a.isAbsolute && !(schemes.any fun s => s.toList == scheme) then some (.unknownScheme scheme)
    else none

/-! ## Paths -/

/-- One step along a path, given the reversed names before: `.` stays and `..` goes back, though
never before the start. -/
def resolveName (before : List Text) (name : Text) : List Text :=
  if name == ['.'] then before
  else if name == ['.', '.'] then
    match before with
    | [] => []
    | [first] => if first.isEmpty then [first] else []
    | _ :: before => before
  else name :: before

/-- The path with `.` and `..` resolved. -/
def resolveDots (path : Text) : Text :=
  List.intercalate ['/'] ((path.splitOn '/').foldl resolveName []).reverse

/-- The path of an address as the service is asked for it: a relative one starts at the root. -/
def targetPath (a : Address) : Text :=
  let path := if a.scheme.isEmpty && !a.hasAuthority then a.path else resolveDots a.path
  if a.isAbsolute then if path.isEmpty then ['/'] else path
  else resolveDots ('/' :: path.dropWhile (· == '/'))

/-- The text with every percent sign and two hexadecimal digits read as the character of that
number.  Beyond ASCII they are bytes rather than characters, but no path of the service has any. -/
def readPercents : Text → Text
  | '%' :: a :: b :: rest =>
    match hexValue? a, hexValue? b with
    | some x, some y => Char.ofNat (16 * x + y) :: readPercents rest
    | _, _ => '%' :: readPercents (a :: b :: rest)
  | c :: rest => c :: readPercents rest
  | [] => []

/-- The path that a written address leads to.  Percent signs are read twice: when the address is
taken apart, and when the request arrives. -/
def read (t : Text) : Except AddressError Text :=
  if maxLength < t.length then .error .tooLong
  else match t.findIdx? fun c => c.toNat < 32 || c.toNat == 127 with
    | some i => .error (.unprintable (t.getD i ' ') i)
    | none =>
      let a := ofText t
      match a.fault? with
      | some e => .error e
      | none => .ok (readPercents (readPercents a.targetPath))

end Address

end ReactLint
