import Errand.Domain
import Errand.Text.Percent

/-!
Hosts of URLs: domain names, in ASCII, and the two kinds of addresses. A name whose last label is a
number must be an IPv4 address. An IPv6 address stands in brackets and is written with its longest
run of zeros left out.
-/

set_option autoImplicit false

namespace Errand

/-- Why a text is not a URL. -/
inductive UrlFault where
  | noBase
  | emptyHost
  | badPort
  | badName
  | badCharacter
  | badIpv4
  | badIpv6
  deriving DecidableEq, Repr

def UrlFault.message : UrlFault → String
  | noBase => "relative URL without a base"
  | emptyHost => "empty host"
  | badPort => "invalid port number"
  | badName => "invalid international domain name"
  | badCharacter => "invalid domain character"
  | badIpv4 => "invalid IPv4 address"
  | badIpv6 => "invalid IPv6 address"

inductive Host where
  /-- A name; the empty one stands for no host where there could be one. -/
  | name (text : String)
  | ipv4 (address : UInt32)
  /-- Eight pieces of 16 bits. -/
  | ipv6 (pieces : List Nat)
  deriving DecidableEq, Repr

namespace Host

/-! ### IPv4 -/

/-- The four bytes of an address, in decimal. -/
def ipv4Text (address : Nat) : String :=
  ".".intercalate ([24, 16, 8, 0].map fun shift ↦ toString (address / Nat.pow 2 shift % 256))

def isHexDigit (c : Char) : Bool := (Form.hexValue? c).isSome

/-- The value of digits in a base. -/
def valueIn (base : Nat) (digits : List Char) : Nat :=
  digits.foldl (fun n c ↦ n * base + (Form.hexValue? c).getD 0) 0

/-- A number in decimal, in octal after a zero or in hexadecimal after `0x`. -/
def number? (part : List Char) : Option Nat :=
  match part with
  | [] => none
  | '0' :: 'x' :: digits | '0' :: 'X' :: digits =>
    if digits.all isHexDigit then some (valueIn 16 digits) else none
  | ['0'] => some 0
  | '0' :: digits => if digits.all fun c ↦ '0' ≤ c && c ≤ '7' then some (valueIn 8 digits) else none
  | digits => if digits.all Char.isDigit then some (valueIn 10 digits) else none

/-- The parts of a name between its points; a point at the end is passed over. -/
def parts (name : List Char) : List (List Char) :=
  let parts := Form.splitAt '.' name
  if parts.getLast? = some [] ∧ 1 < parts.length then parts.dropLast else parts

/-- Whether the last part of a name is a number. -/
def endsInNumber (name : List Char) : Bool :=
  match (parts name).getLast? with
  | none | some [] => false
  | some part => part.all Char.isDigit || (number? part).isSome

/-- An address of up to four numbers, the last one filling all the bytes that are left. -/
def readIpv4 (name : List Char) : Except UrlFault Host :=
  match (parts name).mapM number? with
  | none => .error .badIpv4
  | some numbers =>
    let front := numbers.dropLast
    let last := numbers.getLastD 0
    if numbers.length ≤ 4 ∧ front.all (· < 256) ∧ last < Nat.pow 256 (4 - front.length) then
      let high := front.zipIdx.foldl (fun sum (n, i) ↦ sum + n * Nat.pow 256 (3 - i)) 0
      .ok (.ipv4 (UInt32.ofNat (high + last)))
    else .error .badIpv4

/-! ### IPv6 -/

/-- A byte in decimal without leading zeros. -/
def byte? (part : List Char) : Option Nat :=
  match part with
  | ['0'] => some 0
  | [] | '0' :: _ => none
  | digits =>
    if digits.all Char.isDigit ∧ valueIn 10 digits < 256 then some (valueIn 10 digits) else none

/-- Two pieces written as four bytes. -/
def bytePieces? (part : List Char) : Option (List Nat) :=
  match (Form.splitAt '.' part).mapM byte? with
  | some [a, b, c, d] => some [a * 256 + b, c * 256 + d]
  | _ => none

/-- One piece of up to four hexadecimal digits. -/
def piece? (part : List Char) : Option Nat :=
  if part ≠ [] ∧ part.length ≤ 4 ∧ part.all isHexDigit then some (valueIn 16 part) else none

/-- The pieces of texts that stood between colons; the last may be four bytes. -/
def piecesOf? (mayEndInBytes : Bool) : List (List Char) → Option (List Nat)
  | [] => some []
  | [part] =>
    if mayEndInBytes && part.contains '.' then bytePieces? part
    else (piece? part).map fun n ↦ [n]
  | part :: rest => do
    let n ← piece? part
    let others ← piecesOf? mayEndInBytes rest
    some (n :: others)

/-- Texts between colons; nothing at all for the empty text. -/
def betweenColons (text : List Char) : List (List Char) :=
  if text.isEmpty then [] else Form.splitAt ':' text

/-- The texts before and after the first double colon. -/
def atGap : List Char → Option (List Char × List Char)
  | ':' :: ':' :: rest => some ([], rest)
  | c :: rest => (atGap rest).map fun (before, after) ↦ (c :: before, after)
  | [] => none

def ipv6Pieces? (text : List Char) : Option (List Nat) :=
  match atGap text with
  | none => do
    let pieces ← piecesOf? true (betweenColons text)
    if pieces.length = 8 then some pieces else none
  | some (before, after) => do
    let front ← piecesOf? false (betweenColons before)
    let back ← piecesOf? true (betweenColons after)
    let missing := 8 - (front.length + back.length)
    if missing = 0 then none else some (front ++ List.replicate missing 0 ++ back)

/-- The longest run of zeros, as its start and length; the first of several. -/
def longestZeros (pieces : List Nat) : Nat × Nat :=
  (List.range pieces.length).foldl
    (fun best i ↦
      let run := ((pieces.drop i).takeWhile (· = 0)).length
      if best.2 < run then (i, run) else best)
    (0, 0)

def pieceTexts (pieces : List Nat) : String :=
  ":".intercalate (pieces.map fun n ↦ String.ofList (Nat.toDigits 16 n))

def ipv6Text (pieces : List Nat) : String :=
  let (start, length) := longestZeros pieces
  if length < 2 then pieceTexts pieces
  else pieceTexts (pieces.take start) ++ "::" ++ pieceTexts (pieces.drop (start + length))

/-! ### Names -/

/-- Characters that no name may hold. -/
def isForbidden (c : Char) : Bool :=
  c.toNat ≤ 0x20 || c.toNat = 0x7F || "%#/:<>?@[\\]^|".toList.contains c

/-- A name in ASCII, if it is one for hosts. -/
def asciiName? (text : String) : Option (List Char) := do
  let ascii ← Domain.ascii? text.toList
  if ascii.any isForbidden then none else some ascii

/-- What stands in brackets, if the text begins with one. -/
def bracketed? : List Char → Option (Except UrlFault Host)
  | '[' :: rest =>
    some (if rest.getLast? = some ']' then
        match ipv6Pieces? rest.dropLast with
        | some pieces => .ok (.ipv6 pieces)
        | none => .error .badIpv6
      else .error .badIpv6)
  | _ => none

/-- The host of a URL with a well-known scheme. -/
def read (text : List Char) : Except UrlFault Host :=
  match bracketed? text with
  | some outcome => outcome
  | none =>
    match (Utf8.decode? (Percent.decode text)).bind asciiName? with
    | none => .error .badName
    | some ascii =>
      if ascii.isEmpty then .error .emptyHost
      else if endsInNumber ascii then readIpv4 ascii
      else .ok (.name (String.ofList ascii))

/-- Characters that the host of another URL may not hold. -/
def isForbiddenAsIs (c : Char) : Bool :=
  "\x00\t\n\r #/:<>?@[\\]^|".toList.contains c

def isControl (c : Char) : Bool := c.toNat < 0x20 || c.toNat = 0x7F

/-- The host of a URL with any other scheme, which is kept as it is. -/
def readAsIs (text : List Char) : Except UrlFault Host :=
  match bracketed? text with
  | some outcome => outcome
  | none =>
    if text.any isForbiddenAsIs then .error .badCharacter
    else .ok (.name (String.ofList (Percent.encode isControl text)))

def text : Host → String
  | name text => text
  | ipv4 address => ipv4Text address.toNat
  | ipv6 pieces => "[" ++ ipv6Text pieces ++ "]"

/-- Whether there is a host at all. -/
def isEmpty : Host → Bool
  | name text => text.isEmpty
  | ipv4 _ | ipv6 _ => false

/-- An IPv6 address by itself; one that stands for an IPv4 address shows it. -/
def ipv6Label (pieces : List Nat) : String :=
  match pieces with
  | [0, 0, 0, 0, 0, 0xFFFF, high, low] => "::ffff:" ++ ipv4Text (high * 65536 + low)
  | _ => ipv6Text pieces

end Host

end Errand
