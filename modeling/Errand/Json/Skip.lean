import Errand.Json.Reader

/-!
Passing over a document without reading it: only the grammar is checked, not the range of numbers,
the pairing of surrogates or the encoding of strings, and nesting has no bound. `skip` keeps the
open lists and objects in a stack, so it needs no recursion along them.
-/

set_option autoImplicit false

namespace Errand.Json

/-- Passes over a string after its opening quote. -/
def skipString : List UInt8 → Except Fault (List UInt8)
  | [] => .error .endOfString
  | b :: rest =>
    if b = byte '"' then .ok rest
    else if b = byte '\\' then
      match rest with
      | [] => .error .endOfString
      | e :: rest =>
        if e = byte 'u' then
          match readHexFour rest with
          | .error fault => .error fault
          | .ok _ => skipString (rest.drop 4)
        else if (simpleEscape? e).isSome then skipString rest
        else .error .badEscape
    else if b < 0x20 then .error .controlCharacter
    else skipString rest
termination_by input => input.length
decreasing_by
  all_goals simp only [List.length_drop, List.length_cons]; omega

/-- Passes over an exponent after its mark. -/
def skipExponent (input : List UInt8) : Except Fault (List UInt8) :=
  let unsigned := match input with
    | b :: rest => if b = byte '-' ∨ b = byte '+' then rest else input
    | [] => []
  match unsigned with
  | b :: rest => if isDigit b then .ok (rest.dropWhile isDigit) else .error .badNumber
  | [] => .error .badNumber

def skipScale : List UInt8 → Except Fault (List UInt8)
  | [] => .ok []
  | b :: rest => if b = byte 'e' ∨ b = byte 'E' then skipExponent rest else .ok (b :: rest)

/-- Passes over what may follow the whole part of a number. -/
def skipAfterWhole : List UInt8 → Except Fault (List UInt8)
  | [] => .ok []
  | b :: rest =>
    if b = byte '.' then
      if (rest.takeWhile isDigit).isEmpty then .error .badNumber
      else skipScale (rest.dropWhile isDigit)
    else skipScale (b :: rest)

/-- Passes over a number after its sign. -/
def skipUnsigned : List UInt8 → Except Fault (List UInt8)
  | [] => .error .badNumber
  | b :: rest =>
    if b = byte '0' then
      if (rest.head?.map isDigit).getD false then .error .badNumber else skipAfterWhole rest
    else if isDigit b then skipAfterWhole (rest.dropWhile isDigit)
    else .error .badNumber

/-- An open list or object. -/
inductive Frame where
  | list
  | object

def Frame.closing : Frame → UInt8
  | list => byte ']'
  | object => byte '\x7d'

def Frame.separatorFault : Frame → Fault
  | list => .expectedListSeparator
  | object => .expectedObjectSeparator

def Frame.endFault : Frame → Fault
  | list => .endOfList
  | object => .endOfObject

/-- Passes over a scalar, or opens a list or an object. -/
def skipStart (input : List UInt8) : Except Fault (Option Frame × List UInt8) :=
  match skipSpace input with
  | [] => .error .endOfValue
  | b :: rest =>
    if b = byte 'n' then (readWord "ull".toList rest).map (none, ·)
    else if b = byte 't' then (readWord "rue".toList rest).map (none, ·)
    else if b = byte 'f' then (readWord "alse".toList rest).map (none, ·)
    else if b = byte '-' then (skipUnsigned rest).map (none, ·)
    else if isDigit b then (skipUnsigned (b :: rest)).map (none, ·)
    else if b = byte '"' then (skipString rest).map (none, ·)
    else if b = byte '[' then .ok (some .list, rest)
    else if b = byte '\x7b' then .ok (some .object, rest)
    else .error .expectedValue

/-- Closes the open frames that end here, `afterItem` telling whether an item has just been
passed. Gives the frames still open, at the place where their next item begins. -/
def skipClosings : Bool → List Frame → List UInt8 → Except Fault (List Frame × List UInt8)
  | _, [], input => .ok ([], input)
  | afterItem, frame :: frames, input =>
    match skipSpace input with
    | [] => .error frame.endFault
    | b :: rest =>
      if b = byte ',' ∧ afterItem then .ok (frame :: frames, rest)
      else if b = frame.closing then skipClosings true frames rest
      else if afterItem then .error frame.separatorFault
      else .ok (frame :: frames, b :: rest)

/-- Passes over the key and the colon of a member. -/
def skipKey (input : List UInt8) : Except Fault (List UInt8) :=
  match skipSpace input with
  | [] => .error .endOfObject
  | b :: rest => if b = byte '"' then (skipString rest).bind readColon else .error .keyNotString

/-- Passes over one item inside the frames given and everything up to their end. -/
def skipFrames : Nat → List Frame → List UInt8 → Except Fault (List UInt8)
  | 0, _, _ => .error .endOfValue
  | fuel + 1, frames, input => do
    let (opened, rest) ← skipStart input
    let (open_, rest) ← match opened with
      | some frame => skipClosings false (frame :: frames) rest
      | none => skipClosings true frames rest
    match open_ with
    | [] => .ok rest
    | .list :: _ => skipFrames fuel open_ rest
    | .object :: _ =>
      let rest ← skipKey rest
      skipFrames fuel open_ rest

/-- Passes over one document. -/
def skip (input : List UInt8) : Except Fault (List UInt8) :=
  skipFrames (input.length + 1) [] input

end Errand.Json
