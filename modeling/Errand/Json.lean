import Errand.Binary64.Shortest
import Errand.Text.Hex

/-!
JSON documents and their compact text: no space between tokens, members in the order they are
held, and escapes only where the grammar demands them. `Json.ofMembers` orders the members of an
object by name, a later member taking the place of an earlier one of the same name.
-/

set_option autoImplicit false

namespace Errand

/-- A number is whole where it was written without a point or an exponent and fits 64 bits. -/
inductive Json.Number where
  | whole (n : Int)
  | real (x : Binary64)
  deriving DecidableEq, Repr

inductive Json where
  | null
  | bool (b : Bool)
  | number (n : Json.Number)
  | string (s : String)
  | array (items : List Json)
  | object (members : List (String × Json))
  deriving Repr, Inhabited

namespace Json

def int (n : Int) : Json := number (.whole n)

def nat (n : Nat) : Json := number (.whole n)

/-- An optional text; absence is `null`. -/
def ofText? : Option String → Json
  | none => null
  | some s => string s

/-! ### Compact text -/

/-- A character inside a JSON string. -/
def writeChar (c : Char) : List Char :=
  if c = '"' then ['\\', '"']
  else if c = '\\' then ['\\', '\\']
  else if c = '\x08' then ['\\', 'b']
  else if c = '\x0c' then ['\\', 'f']
  else if c = '\n' then ['\\', 'n']
  else if c = '\r' then ['\\', 'r']
  else if c = '\t' then ['\\', 't']
  else if c.toNat < 0x20 then
    ['\\', 'u', '0', '0', Hex.digit (c.toNat / 16), Hex.digit (c.toNat % 16)]
  else [c]

def writeString (s : String) : List Char := '"' :: s.toList.flatMap writeChar ++ ['"']

/-- Numbers beyond the reach of JSON are written as `null`. -/
def writeNumber : Number → List Char
  | .whole n => (toString n).toList
  | .real x =>
    match x with
    | .nan | .infinite _ => "null".toList
    | .finite .. => x.decimalText.toList

mutual

def write : Json → List Char
  | null => "null".toList
  | bool b => (if b then "true" else "false").toList
  | number n => writeNumber n
  | string s => writeString s
  | array items => '[' :: writeItems items
  | object members => '\x7b' :: writeMembers members

/-- The items and the closing bracket. -/
def writeItems : List Json → List Char
  | [] => [']']
  | item :: rest => write item ++ writeMoreItems rest

def writeMoreItems : List Json → List Char
  | [] => [']']
  | item :: rest => ',' :: write item ++ writeMoreItems rest

/-- The members and the closing brace. -/
def writeMembers : List (String × Json) → List Char
  | [] => ['\x7d']
  | (name, value) :: rest => writeString name ++ ':' :: write value ++ writeMoreMembers rest

def writeMoreMembers : List (String × Json) → List Char
  | [] => ['\x7d']
  | (name, value) :: rest =>
    ',' :: writeString name ++ ':' :: write value ++ writeMoreMembers rest

end

def text (j : Json) : String := String.ofList (write j)

/-! ### Members by name -/

/-- Puts a member into an ordered list of members. -/
def putMember (name : String) (value : Json) :
    List (String × Json) → List (String × Json)
  | [] => [(name, value)]
  | (other, old) :: rest =>
    if name < other then (name, value) :: (other, old) :: rest
    else if name = other then (name, value) :: rest
    else (other, old) :: putMember name value rest

def ofMembers (members : List (String × Json)) : Json :=
  object (members.foldl (fun sorted (name, value) ↦ putMember name value sorted) [])

/-- The member of an object with the given name. -/
def member? (name : String) : Json → Option Json
  | object members => (members.find? (·.1 = name)).map (·.2)
  | _ => none

mutual

/-- Equality of documents; numbers that are not whole compare by value. -/
def same : Json → Json → Bool
  | null, null => true
  | bool a, bool b => a == b
  | number (.whole m), number (.whole n) => m == n
  | number (.real x), number (.real y) => x.eq y
  | string s, string t => s == t
  | array xs, array ys => sameItems xs ys
  | object ms, object ns => sameMembers ms ns
  | _, _ => false

def sameItems : List Json → List Json → Bool
  | [], [] => true
  | x :: xs, y :: ys => same x y && sameItems xs ys
  | _, _ => false

def sameMembers : List (String × Json) → List (String × Json) → Bool
  | [], [] => true
  | (k, x) :: xs, (l, y) :: ys => k == l && same x y && sameMembers xs ys
  | _, _ => false

end

end Json

end Errand
