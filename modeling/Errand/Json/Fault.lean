import Errand.Json
import Errand.Text.Decimal
import Errand.Text.Quoted

/-!
Why a text could not be read as the document asked for: faults of the grammar, and documents of
another shape than expected. `message` words each cause.
-/

set_option autoImplicit false

namespace Errand.Json

/-- What stood in the text where something else was expected. -/
inductive Found where
  | null
  | bool (b : Bool)
  | number (n : Number)
  | string (s : String)
  | list
  | map

namespace Found

def describe : Found → String
  | null => "null"
  | bool b => s!"boolean `{b}`"
  | number (.whole n) => s!"integer `{n}`"
  | number (.real x) => "floating point `" ++ x.decimalText ++ "`"
  | string s => "string " ++ Quoted.quote s
  | list => "sequence"
  | map => "map"

end Found

inductive Fault where
  | endOfValue
  | endOfString
  | endOfList
  | endOfObject
  | expectedValue
  | expectedWord
  | expectedColon
  | expectedListSeparator
  | expectedObjectSeparator
  | keyNotString
  | trailingComma
  | trailingCharacters
  | badNumber
  | numberOutOfRange
  | badEscape
  | unpairedEscape
  | loneSurrogate
  | badCodePoint
  | controlCharacter
  | tooDeep
  | missingField (name : String)
  | duplicateField (name : String)
  | wrongType (found : Found) (expected : String)
  | wrongValue (found : Found) (expected : String)
  | wrongLength (count : Nat) (expected : String)
  | notAnId
  | badId (cause : DecimalFault)
  /-- A span of time ran over its last second. -/
  | durationOverflow

def Fault.message : Fault → String
  | endOfValue => "EOF while parsing a value"
  | endOfString => "EOF while parsing a string"
  | endOfList => "EOF while parsing a list"
  | endOfObject => "EOF while parsing an object"
  | expectedValue => "expected value"
  | expectedWord => "expected ident"
  | expectedColon => "expected `:`"
  | expectedListSeparator => "expected `,` or `]`"
  | expectedObjectSeparator => "expected `,` or `\x7d`"
  | keyNotString => "key must be a string"
  | trailingComma => "trailing comma"
  | trailingCharacters => "trailing characters"
  | badNumber => "invalid number"
  | numberOutOfRange => "number out of range"
  | badEscape => "invalid escape"
  | unpairedEscape => "unexpected end of hex escape"
  | loneSurrogate => "lone leading surrogate in hex escape"
  | badCodePoint => "invalid unicode code point"
  | controlCharacter => "control character (\\u0000-\\u001F) found while parsing a string"
  | tooDeep => "recursion limit exceeded"
  | missingField name => s!"missing field `{name}`"
  | duplicateField name => s!"duplicate field `{name}`"
  | wrongType found expected => "invalid type: " ++ found.describe ++ ", expected " ++ expected
  | wrongValue found expected => "invalid value: " ++ found.describe ++ ", expected " ++ expected
  | wrongLength count expected => s!"invalid length {count}, expected " ++ expected
  | notAnId => "data did not match any variant of untagged enum SnowflakeRepr"
  | badId cause => cause.message
  | durationOverflow => "overflow in Duration::new"

end Errand.Json
