import Errand.Url

/-!
Reading URLs. White space at the ends and line breaks anywhere are passed over. After the scheme, a
URL with a well-known one has a host whatever its slashes; any other has one only after two
slashes, and without a slash at all its path is a text of its own. Each part is escaped as its
place demands, and dot segments are resolved.
-/

set_option autoImplicit false

namespace Errand.Url

/-- How the scheme makes the rest be read. -/
inductive Kind where
  | file
  /-- A well-known scheme, with the port that goes without saying. -/
  | special (port : Nat)
  | other
  deriving DecidableEq, Repr

namespace Kind

def ofScheme (scheme : String) : Kind :=
  if scheme = "file" then file
  else if scheme = "http" ∨ scheme = "ws" then special 80
  else if scheme = "https" ∨ scheme = "wss" then special 443
  else if scheme = "ftp" then special 21
  else other

def isSpecial : Kind → Bool
  | file | special _ => true
  | other => false

def defaultPort? : Kind → Option Nat
  | special port => some port
  | file | other => none

/-- Whether a character separates the segments of a path. -/
def isSlash (kind : Kind) (c : Char) : Bool := c = '/' || (c = '\\' && kind.isSpecial)

/-- Whether a character ends the host and what belongs to it. -/
def endsHost (kind : Kind) (c : Char) : Bool := kind.isSlash c || c = '?' || c = '#'

end Kind

/-! ### What must be escaped -/

def escapesInFragment (c : Char) : Bool := Host.isControl c || " \"<>`".toList.contains c

def escapesInPath (c : Char) : Bool := escapesInFragment c || "#?\x7b\x7d".toList.contains c

def escapesInUser (c : Char) : Bool := escapesInPath c || "/:;=@[\\]^|".toList.contains c

def escapesInQuery (kind : Kind) (c : Char) : Bool :=
  Host.isControl c || " \"#<>".toList.contains c || (c = '\'' && kind.isSpecial)

def escaped (mustEscape : Char → Bool) (text : List Char) : String :=
  String.ofList (Percent.encode mustEscape text)

/-! ### Scheme -/

def isSchemeChar (c : Char) : Bool := c.isAlphanum || c = '+' || c = '-' || c = '.'

/-- The scheme, lowered, and what follows its colon. -/
def scheme? (text : List Char) : Option (String × List Char) :=
  match text, text.dropWhile isSchemeChar with
  | c :: _, ':' :: rest =>
    if c.isAlpha then
      some (String.ofList ((text.takeWhile isSchemeChar).map Char.toLower), rest)
    else none
  | _, _ => none

/-! ### Host and what belongs to it -/

/-- The texts before and after the last `@`, if there is one. -/
def splitUser? (text : List Char) : Option (List Char × List Char) :=
  if text.contains '@' then
    let host := (text.reverse.takeWhile (· ≠ '@')).reverse
    some (text.take (text.length - host.length - 1), host)
  else none

/-- The text of a host and what follows: a colon ends it, but not inside brackets. -/
def splitHost (inBrackets : Bool) : List Char → List Char × List Char
  | [] => ([], [])
  | c :: rest =>
    if c = ':' && !inBrackets then ([], c :: rest)
    else
      let (host, left) := splitHost (c = '[' || (inBrackets && c ≠ ']')) rest
      (c :: host, left)

/-- Reads a port up to the end or a backslash. -/
def readPort (kind : Kind) (text : List Char) : Except UrlFault (Option Nat × List Char) :=
  let digits := text.takeWhile Char.isDigit
  let left := text.dropWhile Char.isDigit
  let port := Host.valueIn 10 digits
  if Nat.pow 2 16 ≤ port then .error .badPort
  else if left ≠ [] ∧ left.head? ≠ some '\\' then .error .badPort
  else .ok (if digits.isEmpty || kind.defaultPort? = some port then none else some port, left)

/-- The parts between the scheme and the path. -/
structure Authority where
  username : String
  password : String
  host : Host
  port : Option Nat

/-- The name and password of a user. -/
def userParts (user : List Char) : String × String :=
  (escaped escapesInUser (user.takeWhile (· ≠ ':')),
    escaped escapesInUser ((user.dropWhile (· ≠ ':')).drop 1))

/-- Reads what stands after the two slashes, and leaves the path and what follows it. -/
def readAuthority (kind : Kind) (text : List Char) : Except UrlFault (Authority × List Char) := do
  let region := text.takeWhile (!kind.endsHost ·)
  let after := text.dropWhile (!kind.endsHost ·)
  if region.head? = some '@' ∧ region.tail = [] ∧ after ≠ [] then throw .emptyHost
  let (user, region) := (splitUser? region).getD ([], region)
  let (username, password) := userParts user
  let (hostText, portText) := splitHost false region
  if hostText.isEmpty ∧ (kind.isSpecial ∨ portText ≠ []) then throw .emptyHost
  let host ← if kind.isSpecial then Host.read hostText else Host.readAsIs hostText
  let (port, left) ← match portText with
    | [] => .ok (none, [])
    | _ :: digits => readPort kind digits
  if host.isEmpty ∧ (username ≠ "" ∨ password ≠ "") then throw .emptyHost
  .ok (⟨username, password, host, port⟩, left ++ after)

/-! ### Path -/

def isSingleDot (segment : String) : Bool := segment ∈ [".", "%2e", "%2E"]

def isDoubleDot (segment : String) : Bool :=
  segment.toLower ∈ ["..", "%2e%2e", "%2e.", ".%2e"]

/-- The letter of a drive, which a colon or a bar follows. -/
def driveLetter? (segment : List Char) : Option Char :=
  match segment with
  | [c, mark] => if c.isAlpha ∧ (mark = ':' ∨ mark = '|') then some c else none
  | _ => none

/-- Whether a segment is a drive, as far as its first backslash. -/
def isDrive (segment : String) : Bool :=
  (driveLetter? (segment.toList.takeWhile (· ≠ '\\'))).isSome

/-- Takes the last segment away; a drive stays. -/
def shorten (path : List String) : List String :=
  if path.getLast?.any isDrive then path else path.dropLast

/-- A path as far as it has been read. -/
structure Trail where
  segments : List String
  /-- Whether there is a host that gives way to a drive at the beginning. -/
  yieldsHost : Bool

namespace Trail

def append (trail : Trail) (segment : String) : Trail :=
  { trail with segments := trail.segments ++ [segment] }

/-- Adds a segment to a path; `isLast` says that no other follows. -/
def add (isLast : Bool) (trail : Trail) (segment : List Char) : Trail :=
  let written := escaped escapesInPath segment
  if isDoubleDot written then
    let trail := { trail with segments := shorten trail.segments }
    if isLast then trail.append "" else trail
  else if isSingleDot written then (if isLast then trail.append "" else trail)
  else
    match driveLetter? segment, trail.segments with
    | some letter, [] =>
      if trail.yieldsHost then ⟨[String.ofList [letter, ':']], false⟩ else trail.append written
    | _, _ => trail.append written

def addAll (trail : Trail) : List (List Char) → Trail
  | [] => trail
  | [segment] => trail.add true segment
  | segment :: rest => (trail.add false segment).addAll rest

end Trail

/-- Cuts a path at its slashes. -/
def splitPath (kind : Kind) : List Char → List (List Char)
  | [] => [[]]
  | c :: rest =>
    if kind.isSlash c then [] :: splitPath kind rest
    else match splitPath kind rest with
      | [] => [[c]]
      | segment :: segments => (c :: segment) :: segments

/-- The text after the slash that it begins with, if any. -/
def afterSlash (kind : Kind) : List Char → List Char
  | [] => []
  | c :: rest => if kind.isSlash c then rest else c :: rest

/-- The segments of a path, read after its first slash. -/
def readSegments (kind : Kind) (text : List Char) : List String :=
  (Trail.addAll ⟨[], false⟩ (splitPath kind text)).segments

/-- The path after a host. -/
def readPath (kind : Kind) (text : List Char) : UrlPath :=
  .segments <|
    if text.isEmpty ∧ ¬ kind.isSpecial then [] else readSegments kind (afterSlash kind text)

/-- Leaves out empty segments in front of others. -/
def withoutEmptyFront : List String → List String
  | "" :: segment :: rest => withoutEmptyFront (segment :: rest)
  | path => path

/-- The host and the path of a file: a drive at the beginning takes the place of the host. -/
def readFilePath (host : Host) (text : List Char) : Host × UrlPath :=
  let trail := Trail.addAll ⟨[], !host.isEmpty⟩ (splitPath .file (afterSlash .file text))
  (if trail.yieldsHost then host else .name "", .segments (withoutEmptyFront trail.segments))

/-! ### The whole -/

/-- The text before a query or fragment, the query and the fragment. -/
def splitTail (kind : Kind) (text : List Char) : List Char × Option String × Option String :=
  let front := text.takeWhile (· ≠ '#')
  let fragment := match text.dropWhile (· ≠ '#') with
    | [] => none
    | _ :: rest => some (escaped escapesInFragment rest)
  let query := match front.dropWhile (· ≠ '?') with
    | [] => none
    | _ :: rest => some (escaped (escapesInQuery kind) rest)
  (front.takeWhile (· ≠ '?'), query, fragment)

/-- Reads the host of a file and the path after it. `localhost` is as good as none, and a drive is
part of the path. -/
def readFileHost (text : List Char) : Except UrlFault (Host × UrlPath) := do
  let hostText := text.takeWhile (!Kind.file.isSlash ·)
  let after := text.dropWhile (!Kind.file.isSlash ·)
  if (driveLetter? hostText).isSome then .ok (readFilePath (.name "") text)
  else
    let host ← if hostText.isEmpty then .ok (.name "") else Host.read hostText
    .ok (readFilePath (if host = .name "localhost" then .name "" else host) after)

/-- Reads what follows the scheme `file`. -/
def readFile (text : List Char) : Except UrlFault (Host × UrlPath) :=
  match text with
  | a :: b :: rest =>
    if Kind.file.isSlash a ∧ Kind.file.isSlash b then readFileHost rest
    else .ok (readFilePath (.name "") text)
  | _ => .ok (readFilePath (.name "") text)

/-- Reads what follows the scheme. -/
def readAfterScheme (scheme : String) (text : List Char) : Except UrlFault Url := do
  let kind := Kind.ofScheme scheme
  let (front, query, fragment) := splitTail kind text
  match kind with
  | .file =>
    let (host, path) ← readFile front
    .ok ⟨scheme, "", "", some host, none, path, query, fragment⟩
  | .special _ =>
    let (authority, left) ← readAuthority kind (front.dropWhile kind.isSlash)
    .ok ⟨scheme, authority.username, authority.password, some authority.host, authority.port,
      readPath kind left, query, fragment⟩
  | .other =>
    match front with
    | '/' :: '/' :: rest =>
      let (authority, left) ← readAuthority kind rest
      .ok ⟨scheme, authority.username, authority.password, some authority.host, authority.port,
        readPath kind left, query, fragment⟩
    | '/' :: rest =>
      .ok ⟨scheme, "", "", none, none, .segments (readSegments kind rest), query, fragment⟩
    | _ =>
      .ok ⟨scheme, "", "", none, none, .bare (escaped Host.isControl front), query, fragment⟩

/-- The text without controls and blanks at its ends, and without tabs and line breaks. -/
def cleaned (text : String) : List Char :=
  let isEdge (c : Char) : Bool := c.toNat ≤ 0x20
  let trimmed := ((text.toList.dropWhile isEdge).reverse.dropWhile isEdge).reverse
  trimmed.filter fun c ↦ c ≠ '\t' && c ≠ '\n' && c ≠ '\r'

/-- Reads a URL that stands by itself. -/
def read (text : String) : Except UrlFault Url :=
  match scheme? (cleaned text) with
  | none => .error .noBase
  | some (scheme, rest) => readAfterScheme scheme rest

end Errand.Url
