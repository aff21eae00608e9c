import Errand.Json.Fault
import Errand.Text.Utf8

/-!
Reading JSON from bytes, left to right, stopping at the first fault. A reader takes the bytes left
and gives back what it read and the bytes after it. `readString` and `readNumber` read the two
scalar forms, `readValue` any document; nesting is bounded, the loops along a list or an object
only by the bytes left.
-/

set_option autoImplicit false

namespace Errand.Json

/-- Reads something from the front of a byte list. -/
abbrev Reader (α : Type) := List UInt8 → Except Fault (α × List UInt8)

/-- The byte of an ASCII character. -/
def byte (c : Char) : UInt8 := c.val.toUInt8

def isSpace (b : UInt8) : Bool :=
  b = byte ' ' || b = byte '\n' || b = byte '\t' || b = byte '\r'

def skipSpace (input : List UInt8) : List UInt8 := input.dropWhile isSpace

def isDigit (b : UInt8) : Bool := Utf8.between (byte '0') (byte '9') b

def digitOf (b : UInt8) : Nat := b.toNat - (byte '0').toNat

/-- How many further levels of lists and objects a whole document may open. -/
def maxDepth : Nat := 127

/-- The rest of a word whose first letter has been read. -/
def readWord : List Char → List UInt8 → Except Fault (List UInt8)
  | [], input => .ok input
  | _ :: _, [] => .error .endOfValue
  | c :: word, b :: rest => if b = byte c then readWord word rest else .error .expectedWord

/-! ### Strings -/

def hexDigitOf? (b : UInt8) : Option Nat :=
  if isDigit b then some (digitOf b)
  else if Utf8.between (byte 'a') (byte 'f') b then some (b.toNat - 87)
  else if Utf8.between (byte 'A') (byte 'F') b then some (b.toNat - 55)
  else none

/-- The value of the four hexadecimal digits in front. -/
def readHexFour : List UInt8 → Except Fault Nat
  | a :: b :: c :: d :: _ =>
    match hexDigitOf? a, hexDigitOf? b, hexDigitOf? c, hexDigitOf? d with
    | some a, some b, some c, some d => .ok (((a * 16 + b) * 16 + c) * 16 + d)
    | _, _, _, _ => .error .badEscape
  | _ => .error .endOfString

def isLeadingSurrogate (n : Nat) : Bool := 0xD800 ≤ n && n ≤ 0xDBFF

def isTrailingSurrogate (n : Nat) : Bool := 0xDC00 ≤ n && n ≤ 0xDFFF

/-- A backslash in front, and a `u` after it: where the second half of a pair must begin. -/
def expectPair : List UInt8 → Except Fault Unit
  | [] => .error .endOfString
  | b :: rest =>
    if b = byte '\\' then
      match rest with
      | [] => .error .endOfString
      | u :: _ => if u = byte 'u' then .ok () else .error .unpairedEscape
    else .error .unpairedEscape

/-- The character of a numeric escape, and how many bytes the escape takes after its `u`. -/
def readCodePoint (input : List UInt8) : Except Fault (Char × Nat) := do
  let high ← readHexFour input
  if isTrailingSurrogate high then .error .loneSurrogate
  else if isLeadingSurrogate high then
    expectPair (input.drop 4)
    let low ← readHexFour (input.drop 6)
    if isTrailingSurrogate low then
      .ok (Char.ofNat (0x10000 + (high - 0xD800) * 0x400 + (low - 0xDC00)), 10)
    else .error .loneSurrogate
  else .ok (Char.ofNat high, 4)

/-- The character that a one-letter escape stands for. -/
def simpleEscape? (b : UInt8) : Option Char :=
  if b = byte '"' then some '"'
  else if b = byte '\\' then some '\\'
  else if b = byte '/' then some '/'
  else if b = byte 'b' then some '\x08'
  else if b = byte 'f' then some '\x0c'
  else if b = byte 'n' then some '\n'
  else if b = byte 'r' then some '\r'
  else if b = byte 't' then some '\t'
  else none

/-- What an escape stands for, and how many bytes it takes after its backslash. -/
def readEscape : List UInt8 → Except Fault (Char × Nat)
  | [] => .error .endOfString
  | b :: rest =>
    if b = byte 'u' then (readCodePoint rest).map fun (c, n) ↦ (c, n + 1)
    else match simpleEscape? b with
      | some c => .ok (c, 1)
      | none => .error .badEscape

/-- The bytes of a string up to its closing quote, after those already in `read`, last first. -/
def readStringBytes (read : List UInt8) : Reader (List UInt8)
  | [] => .error .endOfString
  | b :: rest =>
    if b = byte '"' then .ok (read.reverse, rest)
    else if b = byte '\\' then
      match readEscape rest with
      | .error fault => .error fault
      | .ok (c, n) =>
        readStringBytes ((String.utf8EncodeChar c).reverse ++ read) (rest.drop n)
    else if b < 0x20 then .error .controlCharacter
    else readStringBytes (b :: read) rest
termination_by input => input.length
decreasing_by
  · simp only [List.length_drop, List.length_cons]; omega
  · exact Nat.lt_succ_self _

/-- A string whose opening quote has been read. Its bytes must be UTF-8, which is checked at the
closing quote. -/
def readString : Reader String := fun input ↦ do
  let (bytes, rest) ← readStringBytes [] input
  match Utf8.decode? bytes with
  | some s => .ok (s, rest)
  | none => .error .badCodePoint

/-! ### Numbers -/

/-- Appends digits to a significand for as long as it fits 64 bits; counts the digits left over. -/
def appendDigits (significand : Nat) (digits : List UInt8) : Nat × Nat :=
  digits.foldl (fun (n, excess) d ↦
    if excess = 0 ∧ 10 * n + digitOf d < Nat.pow 2 64 then (10 * n + digitOf d, 0)
    else (n, excess + 1))
    (significand, 0)

/-- A power of ten as a double. -/
def powerOfTen (n : Nat) : Binary64 := Binary64.ofNat (Nat.pow 10 n)

/-- The double `significand * 10 ^ exponent`, with one rounding for each power of ten applied; the
powers go up to `10 ^ 308`. -/
def scaleDecimal (x : Binary64) (exponent : Int) : Except Fault Binary64 :=
  if 308 < exponent then (if x.eq .zero then .ok x else .error .numberOutOfRange)
  else if 0 ≤ exponent then
    match x.mul (powerOfTen exponent.toNat) with
    | .infinite _ => .error .numberOutOfRange
    | y => .ok y
  else if -308 ≤ exponent then .ok (x.div (powerOfTen (-exponent).toNat))
  else if x.eq .zero then .ok x
  else scaleDecimal (x.div (powerOfTen 308)) (exponent + 308)
termination_by (-exponent).toNat
decreasing_by omega

/-- The number `± significand * 10 ^ exponent`. -/
def decimal (negative : Bool) (significand : Nat) (exponent : Int) : Except Fault Number := do
  let x ← scaleDecimal (Binary64.ofNat significand) exponent
  .ok (.real (if negative then x.neg else x))

/-- The largest exponent that is computed with. -/
def maxExponent : Nat := 2147483647

/-- An exponent after its mark. -/
def readExponent (negative : Bool) (significand : Nat) (start : Int) :
    Reader Number := fun input ↦
  let (down, unsigned) := match input with
    | b :: rest => if b = byte '-' then (true, rest) else if b = byte '+' then (false, rest)
      else (false, input)
    | [] => (false, [])
  match unsigned with
  | [] => .error .endOfValue
  | b :: _ =>
    if isDigit b then
      let size := (unsigned.takeWhile isDigit).foldl (fun n d ↦ 10 * n + digitOf d) 0
      let rest := unsigned.dropWhile isDigit
      if maxExponent < size then
        if significand ≠ 0 ∧ !down then .error .numberOutOfRange
        else .ok (.real (.finite negative 0), rest)
      else do
        let x ← decimal negative significand (if down then start - size else start + size)
        .ok (x, rest)
    else .error .badNumber

/-- What may follow the digits of a number that is a double: an exponent or nothing. -/
def readScale (negative : Bool) (significand : Nat) (exponent : Int) : Reader Number
  | [] => (decimal negative significand exponent).map (·, [])
  | b :: rest =>
    if b = byte 'e' ∨ b = byte 'E' then readExponent negative significand exponent rest
    else (decimal negative significand exponent).map (·, b :: rest)

/-- A fraction after its point. -/
def readFraction (negative : Bool) (significand : Nat) (exponent : Int) :
    Reader Number := fun input ↦
  let digits := input.takeWhile isDigit
  let rest := input.dropWhile isDigit
  let (longer, excess) := appendDigits significand digits
  if digits.isEmpty then .error (if rest.isEmpty then .endOfValue else .badNumber)
  else readScale negative longer (exponent - (digits.length - excess : Nat)) rest

/-- The whole number `± significand`, or the double nearest to it where it does not fit 64 bits.
Minus zero is a double. -/
def wholeNumber (negative : Bool) (significand : Nat) : Number :=
  if !negative then .whole significand
  else if 0 < significand ∧ significand ≤ Nat.pow 2 63 then .whole (-significand)
  else .real (Binary64.ofNat significand).neg

/-- What may follow the whole part of a number, of which `excess` digits did not fit. -/
def readAfterWhole (negative : Bool) (significand excess : Nat) : Reader Number
  | [] =>
    if excess = 0 then .ok (wholeNumber negative significand, [])
    else (decimal negative significand excess).map (·, [])
  | b :: rest =>
    if b = byte '.' then readFraction negative significand excess rest
    else if excess = 0 ∧ b ≠ byte 'e' ∧ b ≠ byte 'E' then
      .ok (wholeNumber negative significand, b :: rest)
    else readScale negative significand excess (b :: rest)

/-- A number after its sign. -/
def readUnsigned (negative : Bool) : Reader Number
  | [] => .error .endOfValue
  | b :: rest =>
    if b = byte '0' then
      match rest with
      | [] => readAfterWhole negative 0 0 rest
      | d :: _ => if isDigit d then .error .badNumber else readAfterWhole negative 0 0 rest
    else if isDigit b then
      let digits := rest.takeWhile isDigit
      let (significand, excess) := appendDigits (digitOf b) digits
      readAfterWhole negative significand excess (rest.dropWhile isDigit)
    else .error .badNumber

/-- A number whose first byte is `b`. -/
def readNumber (b : UInt8) (rest : List UInt8) : Except Fault (Number × List UInt8) :=
  if b = byte '-' then readUnsigned true rest else readUnsigned false (b :: rest)

/-- Whether a byte begins a number. -/
def startsNumber (b : UInt8) : Bool := b = byte '-' || isDigit b

/-! ### Lists and objects -/

/-- Moves to the next item of a list; `false` at the closing bracket, which stays in front. -/
def nextItem (first : Bool) : Reader Bool := fun input ↦
  match skipSpace input with
  | [] => .error .endOfList
  | b :: rest =>
    if b = byte ']' then .ok (false, b :: rest)
    else if b = byte ',' ∧ !first then
      match skipSpace rest with
      | [] => .error .endOfValue
      | c :: rest => if c = byte ']' then .error .trailingComma else .ok (true, c :: rest)
    else if first then .ok (true, b :: rest)
    else .error .expectedListSeparator

/-- The closing bracket of a list. -/
def closeList (input : List UInt8) : Except Fault (List UInt8) :=
  match skipSpace input with
  | [] => .error .endOfList
  | b :: rest =>
    if b = byte ']' then .ok rest
    else if b = byte ',' then
      .error (if (skipSpace rest).head? = some (byte ']') then .trailingComma
        else .trailingCharacters)
    else .error .trailingCharacters

/-- The key of the next member of an object, or `none` at the closing brace, which stays in
front. -/
def nextKey (first : Bool) : Reader (Option String) := fun input ↦
  match skipSpace input with
  | [] => .error .endOfObject
  | b :: rest =>
    if b = byte '\x7d' then .ok (none, b :: rest)
    else if b = byte ',' ∧ !first then key (skipSpace rest)
    else if first then key (b :: rest)
    else .error .expectedObjectSeparator
where
  key : Reader (Option String)
    | [] => .error .endOfValue
    | b :: rest =>
      if b = byte '"' then (readString rest).map fun (s, rest) ↦ (some s, rest)
      else if b = byte '\x7d' then .error .trailingComma
      else .error .keyNotString

/-- The colon between a key and its value. -/
def readColon (input : List UInt8) : Except Fault (List UInt8) :=
  match skipSpace input with
  | [] => .error .endOfObject
  | b :: rest => if b = byte ':' then .ok rest else .error .expectedColon

/-- The closing brace of an object. -/
def closeObject (input : List UInt8) : Except Fault (List UInt8) :=
  match skipSpace input with
  | [] => .error .endOfObject
  | b :: rest =>
    if b = byte '\x7d' then .ok rest
    else if b = byte ',' then .error .trailingComma
    else .error .trailingCharacters

/-- The items of a list up to its closing bracket, each read by `item`. -/
def readItems {α : Type} (item : Reader α) : Nat → Bool → Reader (List α)
  | 0, _, _ => .error .endOfList
  | fuel + 1, first, input => do
    let (more, rest) ← nextItem first input
    if more then
      let (a, rest) ← item rest
      let (as, rest) ← readItems item fuel false rest
      .ok (a :: as, rest)
    else (closeList rest).map (([] : List α), ·)

/-- The members of an object up to its closing brace. `member` reads the value of a key and puts
it into what was gathered before. -/
def readMembers {σ : Type} (member : σ → String → Reader σ) : Nat → Bool → σ → Reader σ
  | 0, _, _, _ => .error .endOfObject
  | fuel + 1, first, gathered, input => do
    let (key, rest) ← nextKey first input
    match key with
    | none => .ok (gathered, rest)
    | some key =>
      let rest ← readColon rest
      let (gathered, rest) ← member gathered key rest
      readMembers member fuel false gathered rest

/-- One document, with at most `depth` levels of lists and objects. -/
def readValue : Nat → Reader Json
  | depth, input =>
    match skipSpace input with
    | [] => .error .endOfValue
    | b :: rest =>
      if b = byte 'n' then (readWord "ull".toList rest).map (Json.null, ·)
      else if b = byte 't' then (readWord "rue".toList rest).map (Json.bool true, ·)
      else if b = byte 'f' then (readWord "alse".toList rest).map (Json.bool false, ·)
      else if startsNumber b then (readNumber b rest).map fun (n, rest) ↦ (Json.number n, rest)
      else if b = byte '"' then (readString rest).map fun (s, rest) ↦ (Json.string s, rest)
      else if b = byte '[' then
        match depth with
        | 0 => .error .tooDeep
        | depth + 1 =>
          (readItems (readValue depth) (rest.length + 1) true rest).map fun (items, rest) ↦
            (Json.array items, rest)
      else if b = byte '\x7b' then
        match depth with
        | 0 => .error .tooDeep
        | depth + 1 => do
          let put (members : List (String × Json)) (key : String) : Reader _ := fun input ↦ do
            let (value, rest) ← readValue depth input
            .ok (putMember key value members, rest)
          let (members, rest) ← readMembers put (rest.length + 1) true [] rest
          let rest ← closeObject rest
          .ok (Json.object members, rest)
      else .error .expectedValue

/-- Nothing but white space may follow a document. -/
def expectEnd (input : List UInt8) : Except Fault Unit :=
  if (skipSpace input).isEmpty then .ok () else .error .trailingCharacters

/-- Reads a whole text with the reader given. -/
def readWhole {α : Type} (reader : Reader α) (input : List UInt8) : Except Fault α := do
  let (a, rest) ← reader input
  expectEnd rest
  .ok a

/-- What stands in front, for the fault of finding it where `expected` should be. A fault in the
text itself comes first. -/
def mismatch (expected : String) (input : List UInt8) : Fault :=
  let result : Except Fault Found := match skipSpace input with
    | [] => .error .endOfValue
    | b :: rest =>
      if b = byte 'n' then (readWord "ull".toList rest).map fun _ ↦ Found.null
      else if b = byte 't' then (readWord "rue".toList rest).map fun _ ↦ Found.bool true
      else if b = byte 'f' then (readWord "alse".toList rest).map fun _ ↦ Found.bool false
      else if startsNumber b then (readNumber b rest).map fun (n, _) ↦ Found.number n
      else if b = byte '"' then (readString rest).map fun (s, _) ↦ Found.string s
      else if b = byte '[' then .ok .list
      else if b = byte '\x7b' then .ok .map
      else .error .expectedValue
  match result with
  | .error fault => fault
  | .ok found => .wrongType found expected

end Errand.Json
