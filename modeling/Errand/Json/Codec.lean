import Errand.Json.Skip

/-!
Types with a JSON form. A codec pairs a reader, which stops at the first fault, with a writer.
Records are codecs built from their members: an object gives the members by name, in any order,
with unknown ones passed over; a list gives them by position. A member with a default may be
missing. `decode` reads a whole text, `Codec.write` gives the document back.
-/

set_option autoImplicit false

namespace Errand.Json

/-- A reader, told how many further levels it may open, and a writer. -/
structure Codec (α : Type) where
  read : Nat → Reader α
  write : α → Json

/-- Reads a whole text. -/
def decode {α : Type} (codec : Codec α) (input : List UInt8) : Except Fault α :=
  readWhole (codec.read maxDepth) input

/-! ### Scalars -/

namespace Codec

/-- Reads a scalar that begins with a byte of the given class. -/
def readScalar {α : Type} (expected : String) (starts : UInt8 → Bool)
    (scalar : UInt8 → Reader α) : Reader α := fun input ↦
  match skipSpace input with
  | [] => .error .endOfValue
  | b :: rest => if starts b then scalar b rest else .error (mismatch expected input)

/-- A string, given its reading. -/
def readText (expected : String) : Reader String :=
  readScalar expected (· = byte '"') fun _ rest ↦ readString rest

def text : Codec String where
  read _ := readText "a string"
  write := .string

def flag : Codec Bool where
  read _ := readScalar "a boolean" (fun b ↦ b = byte 't' || b = byte 'f') fun b rest ↦
    if b = byte 't' then (readWord "rue".toList rest).map (true, ·)
    else (readWord "alse".toList rest).map (false, ·)
  write := .bool

/-- A number, converted or refused. -/
def readNumberAs {α : Type} (expected : String) (convert : Number → Except Fault α) : Reader α :=
  readScalar expected startsNumber fun b rest ↦ do
    let (n, rest) ← readNumber b rest
    let a ← convert n
    .ok (a, rest)

/-- A whole number between two bounds. -/
def wholeWithin (expected : String) (low high : Int) : Number → Except Fault Int
  | .whole n =>
    if low ≤ n ∧ n ≤ high then .ok n else .error (.wrongValue (.number (.whole n)) expected)
  | .real x => .error (.wrongType (.number (.real x)) expected)

/-- A whole number between two bounds, under the name of its type. -/
def integer (name : String) (low high : Int) : Codec Int where
  read _ := readNumberAs name (wholeWithin name low high)
  write := .int

/-- A natural number below a bound, under the name of its type. -/
def natural (name : String) (bound : Nat) : Codec Nat where
  read _ := readNumberAs name fun n ↦ (wholeWithin name 0 (bound - 1) n).map Int.toNat
  write := .nat

/-- A double; whole numbers are converted. -/
def real : Codec Binary64 where
  read _ := readNumberAs "f64" fun
    | .whole n => .ok (Binary64.ofInt n)
    | .real x => .ok x
  write x := .number (.real x)

/-- Any document, as it is. -/
def document : Codec Json where
  read := readValue
  write j := j

/-- A value or `null`. -/
def optional {α : Type} (codec : Codec α) : Codec (Option α) where
  read depth input :=
    match skipSpace input with
    | b :: rest =>
      if b = byte 'n' then (readWord "ull".toList rest).map (none, ·)
      else (codec.read depth input).map fun (a, rest) ↦ (some a, rest)
    | [] => (codec.read depth input).map fun (a, rest) ↦ (some a, rest)
  write
    | none => .null
    | some a => codec.write a

/-- A string, converted or refused. -/
def converted {α : Type} (expected : String) (convert : String → Except Fault α)
    (write : α → Json) : Codec α where
  read _ input := do
    let (s, rest) ← readText expected input
    let a ← convert s
    .ok (a, rest)
  write := write

end Codec

/-! ### Records -/

/-- The members of a record, each with an optional default: `Members τ δ` describes records whose
values are the nested pair `τ`, and `δ` is the draft that holds the members met so far. -/
inductive Members : Type → Type → Type 1 where
  | nil : Members Unit Unit
  | cons {α τ δ : Type} (name : String) (codec : Codec α) (default : Option α)
      (rest : Members τ δ) : Members (α × τ) (Option α × δ)

namespace Members

/-- No member met yet. -/
def blank {τ δ : Type} : Members τ δ → δ
  | nil => ()
  | cons _ _ _ rest => (none, rest.blank)

def count {τ δ : Type} : Members τ δ → Nat
  | nil => 0
  | cons _ _ _ rest => rest.count + 1

/-- Reads the value of a key into the draft; a member met before is a fault, an unknown one is
passed over. -/
def readMember {τ δ : Type} (depth : Nat) : Members τ δ → δ → String → Reader δ
  | nil, (), _, input => (skip input).map fun rest ↦ ((), rest)
  | cons name codec _ rest, (value, draft), key, input =>
    if key = name then
      match value with
      | some _ => .error (.duplicateField name)
      | none => (codec.read depth input).map fun (a, left) ↦ ((some a, draft), left)
    else (rest.readMember depth draft key input).map fun (draft, left) ↦ ((value, draft), left)

/-- The record of a draft; the first member that was neither met nor has a default is a fault. -/
def complete {τ δ : Type} : Members τ δ → δ → Except Fault τ
  | nil, () => .ok ()
  | cons name _ default rest, (value, draft) => do
    let a ← match value.or default with
      | some a => .ok a
      | none => .error (.missingField name)
    let others ← rest.complete draft
    .ok (a, others)

/-- Reads the members by position, up to the closing bracket or the last of them. -/
def readInOrder {τ δ : Type} (depth : Nat) (expected : String) :
    Members τ δ → Nat → Bool → Reader τ
  | nil, _, _, input => .ok ((), input)
  | cons _ codec default rest, position, first, input => do
    let (more, left) ← nextItem first input
    let (a, left) ←
      if more then codec.read depth left
      else match default with
        | some a => .ok (a, left)
        | none => .error (.wrongLength position expected)
    let (others, left) ← rest.readInOrder depth expected (position + 1) (first && !more) left
    .ok ((a, others), left)

/-- The members of a record, as those of an object. -/
def write {τ δ : Type} : Members τ δ → τ → List (String × Json)
  | nil, () => []
  | cons name codec _ rest, (a, others) => (name, codec.write a) :: rest.write others

end Members

/-- Reads a record from an object or a list. -/
def readRecord {τ δ : Type} (name : String) (members : Members τ δ) (depth : Nat) :
    Reader τ := fun input ↦
  match skipSpace input with
  | [] => .error .endOfValue
  | b :: rest =>
    if b = byte '[' then
      match depth with
      | 0 => .error .tooDeep
      | depth + 1 => do
        let expected := s!"struct {name} with {members.count} elements"
        let (a, rest) ← members.readInOrder depth expected 0 true rest
        let rest ← closeList rest
        .ok (a, rest)
    else if b = byte '\x7b' then
      match depth with
      | 0 => .error .tooDeep
      | depth + 1 => do
        let (draft, rest) ←
          readMembers (members.readMember depth) (rest.length + 1) true members.blank rest
        let a ← members.complete draft
        let rest ← closeObject rest
        .ok (a, rest)
    else .error (mismatch ("struct " ++ name) input)

/-- A record with the given name, made from its members and taken apart again. -/
def Codec.record {τ δ ρ : Type} (name : String) (members : Members τ δ) (make : τ → ρ)
    (parts : ρ → τ) : Codec ρ where
  read depth input := (readRecord name members depth input).map fun (a, rest) ↦ (make a, rest)
  write r := .object (members.write (parts r))

end Errand.Json
