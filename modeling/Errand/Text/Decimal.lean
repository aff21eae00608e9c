/-!
Decimal numbers in texts: a run of digits with an optional plus sign, below a bound. The first
character that spoils the number decides the fault.
-/

set_option autoImplicit false

namespace Errand

/-- Why a text is not a number below the bound. -/
inductive DecimalFault where
  | noDigits
  | badDigit
  | tooLarge
  deriving DecidableEq, Repr

def DecimalFault.message : DecimalFault → String
  | noDigits => "cannot parse integer from empty string"
  | badDigit => "invalid digit found in string"
  | tooLarge => "number too large to fit in target type"

namespace Decimal

/-- Reads digits after those already worth `n`. -/
def readDigits (bound n : Nat) : List Char → Except DecimalFault Nat
  | [] => .ok n
  | c :: rest =>
    if c.isDigit then
      let longer := 10 * n + (c.toNat - '0'.toNat)
      if longer < bound then readDigits bound longer rest else .error .tooLarge
    else .error .badDigit

/-- Reads a whole text as a number below a bound. -/
def read (bound : Nat) (text : String) : Except DecimalFault Nat :=
  match text.toList with
  | [] => .error .noDigits
  | ['+'] => .error .badDigit
  | '+' :: digits => readDigits bound 0 digits
  | digits => readDigits bound 0 digits

end Decimal

end Errand
