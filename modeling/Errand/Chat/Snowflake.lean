import Errand.Json.Codec

/-!
Identifiers of the chat service: 64-bit numbers, written as decimal strings so that readers with
double precision keep them intact. Plain numbers are read as well.
-/

set_option autoImplicit false

namespace Errand.Chat

structure Snowflake where
  value : UInt64
  deriving DecidableEq, Repr

namespace Snowflake

def ofNat? (n : Nat) : Option Snowflake :=
  if n < Nat.pow 2 64 then some ⟨UInt64.ofNat n⟩ else none

/-- Reads an identifier in decimal. -/
def read (text : String) : Except DecimalFault Snowflake :=
  (Decimal.read (Nat.pow 2 64) text).map fun n ↦ ⟨UInt64.ofNat n⟩

def text (id : Snowflake) : String := toString id.value.toNat

/-- The identifier as it shows inside a descriptor. -/
def label (id : Snowflake) : String := "Snowflake(" ++ id.text ++ ")"

/-- The identifier a document stands for. -/
def ofJson : Json → Except Json.Fault Snowflake
  | .string s =>
    match read s with
    | .ok id => .ok id
    | .error cause => .error (.badId cause)
  | .number (.whole n) =>
    if n < 0 then .error .notAnId
    else match ofNat? n.toNat with
      | some id => .ok id
      | none => .error .notAnId
  | _ => .error .notAnId

def codec : Json.Codec Snowflake where
  read depth input := do
    let (j, rest) ← Json.readValue depth input
    let id ← ofJson j
    .ok (id, rest)
  write id := .string id.text

end Snowflake

end Errand.Chat
