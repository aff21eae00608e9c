import Errand.Text.Utf8

/-!
Form encoding: lists of name and value pairs written as `name=value&name=value`. Letters, digits
and `*-._` stand for themselves, a space is `+`, and every other byte of a text's UTF-8 form is a
percent sign and two capital hexadecimal digits. `decode` undoes it.
-/

set_option autoImplicit false

namespace Errand.Form

/-- The bytes that stand for themselves. -/
def isPlain (b : UInt8) : Bool :=
  Utf8.between 0x30 0x39 b || Utf8.between 0x41 0x5A b || Utf8.between 0x61 0x7A b
    || b = 0x2A || b = 0x2D || b = 0x2E || b = 0x5F

/-- The capital hexadecimal digit for a value below sixteen. -/
def hexDigit (n : Nat) : Char := if n < 10 then Char.ofNat (48 + n) else Char.ofNat (55 + n)

def hexValue? (c : Char) : Option Nat :=
  let n := c.toNat
  if 48 ≤ n ∧ n ≤ 57 then some (n - 48)
  else if 65 ≤ n ∧ n ≤ 70 then some (n - 55)
  else if 97 ≤ n ∧ n ≤ 102 then some (n - 87)
  else none

/-- A byte as a percent sign and two digits. -/
def escaped (b : UInt8) : List Char :=
  ['%', hexDigit (b.toNat / 16), hexDigit (b.toNat % 16)]

def encodeByte (b : UInt8) : List Char :=
  if isPlain b then [Char.ofNat b.toNat] else if b = 0x20 then ['+'] else escaped b

/-- One name or value. -/
def encodePart (text : String) : List Char := (Utf8.encode text).flatMap encodeByte

def encodePair (pair : String × String) : List Char :=
  encodePart pair.1 ++ '=' :: encodePart pair.2

/-- The pairs, joined by `&`. -/
def encode (pairs : List (String × String)) : List Char :=
  List.intercalate ['&'] (pairs.map encodePair)

/-- The bytes a name or value stands for; a percent sign without two digits is itself. -/
def decodeBytes : List Char → List UInt8
  | '%' :: h :: l :: rest =>
    match hexValue? h, hexValue? l with
    | some high, some low => UInt8.ofNat (16 * high + low) :: decodeBytes rest
    | _, _ => 0x25 :: decodeBytes (h :: l :: rest)
  | c :: rest =>
    (if c = '+' then [0x20] else String.utf8EncodeChar c) ++ decodeBytes rest
  | [] => []
termination_by text => text.length

def decodePart (text : List Char) : String := Utf8.decodeLossy (decodeBytes text)

/-- Cuts a text at every occurrence of a character. -/
def splitAt (mark : Char) : List Char → List (List Char)
  | [] => [[]]
  | c :: rest =>
    if c = mark then [] :: splitAt mark rest
    else match splitAt mark rest with
      | [] => [[c]]
      | part :: parts => (c :: part) :: parts

/-- A pair, cut at its first equals sign. -/
def decodePair (text : List Char) : String × String :=
  (decodePart (text.takeWhile (· ≠ '=')), decodePart ((text.dropWhile (· ≠ '=')).drop 1))

/-- The pairs of a text; empty pieces between two `&` are left out. -/
def decode (text : List Char) : List (String × String) :=
  ((splitAt '&' text).filter (!·.isEmpty)).map decodePair

end Errand.Form
