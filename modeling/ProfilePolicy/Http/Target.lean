import ProfilePolicy.Http.Host
import ProfilePolicy.Mishap
import ProfilePolicy.Text.Digits
import ProfilePolicy.Text.Quoted
import ProfilePolicy.Text.Search
import ProfilePolicy.Text.Utf8

/-!
# Targets of requests

A request names its target by a reference: a scheme and an authority that may be missing, a path, a
query and a fragment. Only the path matters here, but all of the reference has to be well formed.
The path is cleaned of the segments `.` and `..`, and its escapes are resolved once.

A reference that names no place of its own is taken relative to the root of the service, however
many slashes it begins with; if it has a scheme or an authority all the same, its path is cleaned
before that too. References that cannot be read are refused with a reason.
-/

namespace ProfilePolicy.Http.Target

/-- The place that a reference names: a host, perhaps with a user before it and a port after it. -/
structure Authority where
  user : List Char := []
  host : List Char := []
  port : List Char := []
  deriving Repr, Inhabited

structure Reference where
  scheme : List Char
  authority : Authority
  path : List Char
  /-- The query, if a question mark begins one. -/
  query : Option (List Char)
  deriving Repr, Inhabited

inductive Problem
  | tooLong
  /-- The part of a reference with a name becomes too long when it is escaped. -/
  | partTooLong (name : String)
  | controlCharacter (c : Char) (position : Nat)
  /-- A host of a kind that is none of that kind. -/
  | host (kind : String) (found : List Char)
  | port (found : List Char)
  | doubleSlash
  | leadingColon
  deriving DecidableEq, Repr, Inhabited

def quotedPart (part : List Char) : String :=
  Text.quoted (String.ofList (Text.ofChars part))

def Problem.reason : Problem → String
  | tooLong => "URL too long"
  | partTooLong name => "URL component '" ++ name ++ "' too long"
  | controlCharacter c position =>
    "Invalid non-printable ASCII character in URL, " ++ Text.quoted (String.singleton c) ++
      " at position " ++ toString position ++ "."
  | host kind found => "Invalid " ++ kind ++ ": " ++ quotedPart found
  | port found => "Invalid port: " ++ quotedPart found
  | doubleSlash => "Relative URLs cannot have a path starting with '//'"
  | leadingColon => "Relative URLs cannot have a path starting with ':'"

def Problem.mishap (problem : Problem) : Mishap :=
  .outside "InvalidURL" problem.reason

/-! ## Parts -/

def longest : Nat := 65536

def isAscii (c : Char) : Bool :=
  decide (c.toNat < 128)

def isControl (c : Char) : Bool :=
  decide (c.toNat < 32) || c.toNat == 127

/-- The first control character, with its place. -/
def firstControl (position : Nat) : List Char → Option (Char × Nat)
  | [] => none
  | c :: rest => if isControl c then some (c, position) else firstControl (position + 1) rest

def isSchemeChar (c : Char) : Bool :=
  c.isAlphanum || c == '+' || c == '.' || c == '-'

/-- A scheme, which a colon ends, and what follows the colon. -/
def splitScheme (cs : List Char) : List Char × List Char :=
  let scheme := match cs with
    | c :: _ => if c.isAlpha then cs.takeWhile isSchemeChar else []
    | [] => []
  match cs.drop scheme.length with
  | ':' :: rest => (scheme, rest)
  | _ => ([], cs)

/-- The parts of an authority: a user before the last `@`, a host, which may stand between square
brackets, and a port after a colon. -/
def Authority.ofChars (cs : List Char) : Authority :=
  let place := (cs.reverse.takeWhile (· != '@')).reverse
  let user := (cs.take (cs.length - place.length)).dropLast
  let bracketed := (place.reverse.dropWhile (· != ']')).reverse
  let host :=
    if place.head? == some '[' && !bracketed.isEmpty then bracketed else place.takeWhile (· != ':')
  let rest := place.drop host.length
  { user, host, port := if rest.head? == some ':' then rest.drop 1 else rest }

/-- An authority, which two slashes begin, and what follows it. -/
def splitAuthority (cs : List Char) : Authority × List Char :=
  match cs with
  | '/' :: '/' :: rest =>
    let authority := rest.takeWhile fun c => c != '/' && c != '?' && c != '#'
    (.ofChars authority, rest.drop authority.length)
  | cs => ({}, cs)

def Reference.ofChars (cs : List Char) : Reference :=
  let (scheme, rest) := splitScheme cs
  let (authority, rest) := splitAuthority rest
  let path := rest.takeWhile fun c => c != '?' && c != '#'
  let query := match rest.drop path.length with
    | '?' :: query => some (query.takeWhile (· != '#'))
    | _ => none
  { scheme, authority, path, query }

/-- The ports that schemes have when a reference names none. -/
def defaultPorts : List (String × Int) :=
  [("ftp", 21), ("http", 80), ("https", 443), ("ws", 80), ("wss", 443)]

/-- Whether the port of a reference is another one than its scheme has. -/
def Reference.namesPort (reference : Reference) : Bool :=
  let usual := defaultPorts.find? fun entry => entry.1.toList == reference.scheme
  !reference.authority.port.isEmpty &&
    Text.decimalNumeral? reference.authority.port != usual.map (·.2)

/-- Whether a reference has an authority that says anything. -/
def Reference.hasAuthority (reference : Reference) : Bool :=
  !reference.authority.user.isEmpty || !reference.authority.host.isEmpty || reference.namesPort

/-- Whether a reference names a place of its own: a host under a scheme. -/
def Reference.isAbsolute (reference : Reference) : Bool :=
  !reference.scheme.isEmpty && !reference.authority.host.isEmpty

/-! ## Problems -/

/-- The kind of host that a host looks like and is not. -/
def missedKind? (host : List Char) : Option String :=
  if Host.looksQuad host then (if Host.isQuad host then none else some "IPv4 address")
  else
    match Host.bracketed? host with
    | some address => if Host.isGrouped address then none else some "IPv6 address"
    | none => if host.all isAscii || Host.isName host then none else some "IDNA hostname"

def Authority.problem? (authority : Authority) : Option Problem :=
  let host := authority.host
  if let some kind := missedKind? host then some (.host kind host)
  else if !authority.port.isEmpty && (Text.decimalNumeral? authority.port).isNone then
    some (.port authority.port)
  else none

def Reference.pathProblem? (reference : Reference) : Option Problem :=
  if reference.hasAuthority || !reference.scheme.isEmpty then none
  else if "//".toList.isPrefixOf reference.path then some .doubleSlash
  else if reference.path.head? == some ':' then some .leadingColon
  else none

/-! ## Paths -/

/-- Segments without `.`, and without `..` and the segments that it takes back; the root stays. The
segments kept so far come newest first. -/
def resolve (kept : List (List Char)) : List (List Char) → List (List Char)
  | [] => kept.reverse
  | ['.'] :: rest => resolve kept rest
  | ['.', '.'] :: rest => resolve (if kept == [[]] then kept else kept.drop 1) rest
  | segment :: rest => resolve (segment :: kept) rest

/-- A path without the segments `.` and `..`. -/
def cleaned (path : List Char) : List Char :=
  ['/'].intercalate (resolve [] (Text.splitAt '/' path))

/-- The bytes of a path; two hexadecimal digits after a percent sign are one byte. -/
def pathBytes : List Char → List Nat
  | '%' :: high :: low :: rest =>
    if Text.isHexDigit high && Text.isHexDigit low then
      Text.hexNumber [high, low] :: pathBytes rest
    else Text.utf8Bytes ['%'] ++ pathBytes (high :: low :: rest)
  | c :: rest => Text.utf8Bytes [c] ++ pathBytes rest
  | [] => []

def unescaped (path : List Char) : List Char :=
  Text.ofUtf8Marked (pathBytes path)

/-- The path of a reference from the root of the service. -/
def Reference.rooted (reference : Reference) : List Char :=
  if reference.isAbsolute then reference.path
  else
    let path :=
      if reference.hasAuthority || !reference.scheme.isEmpty then cleaned reference.path
      else reference.path
    '/' :: path.dropWhile (· == '/')

def isPlainInPath (c : Char) : Bool :=
  decide (0x20 < c.toNat) && decide (c.toNat < 0x7F) &&
    !(['"', '#', '<', '>', '?', '\x60', '\x7b', '\x7d'].contains c)

def isPlainInQuery (c : Char) : Bool :=
  isPlainInPath c || ['?', '\x60', '\x7b', '\x7d'].contains c

/-- The length of a text in which all but the plain characters are escaped byte by byte. -/
def escapedLength (isPlain : Char → Bool) (cs : List Char) : Nat :=
  cs.foldl (fun length c => length + if isPlain c then 1 else 3 * c.utf8Size) 0

/-- The part of a reference that is too long to be sent to the service. -/
def Reference.lengthProblem? (reference : Reference) : Option Problem :=
  if reference.isAbsolute then none
  else if longest < escapedLength isPlainInPath reference.rooted then some (.partTooLong "path")
  else if longest < escapedLength isPlainInQuery (reference.query.getD []) then
    some (.partTooLong "query")
  else none

/-! ## Targets -/

def Reference.problem? (reference : Reference) : Option Problem :=
  reference.authority.problem?.or (reference.pathProblem?.or reference.lengthProblem?)

def Reference.ofText (text : String) : Except Problem Reference :=
  let chars := Text.charsOf text
  if longest < chars.length then .error .tooLong
  else
    match firstControl 0 chars with
    | some (c, position) => .error (.controlCharacter c position)
    | none =>
      let reference := Reference.ofChars chars
      match reference.problem? with
      | some problem => .error problem
      | none => .ok reference

/-- The path to which a reference leads; the empty path is the root. -/
def Reference.target (reference : Reference) : String :=
  let path := unescaped (cleaned reference.rooted)
  if path.isEmpty then "/" else String.ofList (Text.ofChars path)

/-- What keeps a request from being sent to the place that a reference names: its host cannot be
written in ASCII, or cannot be read. -/
def Reference.hostMishap? (reference : Reference) : Option Mishap :=
  let host := reference.authority.host
  if !reference.isAbsolute then none
  else if host.all isAscii then
    (Host.nameProblem? host).map fun problem => .outside problem.kind problem.reason
  else if (Host.bracketed? host).isSome then
    Mishap.ofForeign? (String.ofList (Text.ofChars host))
  else none

def read (text : String) : Except Mishap Reference :=
  match Reference.ofText text with
  | .error problem => .error problem.mishap
  | .ok reference => .ok reference

end ProfilePolicy.Http.Target
