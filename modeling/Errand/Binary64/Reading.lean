import Errand.Binary64

/-!
Reading a double from decimal text: an optional sign, then `inf`, `infinity` or `nan` in any case,
or digits with an optional point and an optional exponent. At least one digit must stand before
the exponent and one in it; nothing may follow. `read?` rounds the decimal once.
-/

set_option autoImplicit false

namespace Errand.Binary64

/-- The value of a run of decimal digits, read after those already worth `acc`. -/
def digitsValue (acc : Nat) (digits : List Char) : Nat :=
  digits.foldl (fun n d ↦ 10 * n + (d.toNat - '0'.toNat)) acc

/-- Splits off an optional sign; `true` is minus. -/
def takeSign : List Char → Bool × List Char
  | '-' :: rest => (true, rest)
  | '+' :: rest => (false, rest)
  | rest => (false, rest)

/-- An exponent, mark included, or nothing at all. -/
def readExponent? : List Char → Option Int
  | [] => some 0
  | mark :: rest =>
    if mark = 'e' ∨ mark = 'E' then
      let (negative, digits) := takeSign rest
      if digits ≠ [] ∧ digits.all Char.isDigit then
        some (if negative then -digitsValue 0 digits else digitsValue 0 digits)
      else none
    else none

/-- An unsigned decimal. -/
def readDecimal? (negative : Bool) (text : List Char) : Option Binary64 :=
  let whole := text.takeWhile Char.isDigit
  let afterWhole := text.dropWhile Char.isDigit
  let (fraction, afterFraction) := match afterWhole with
    | '.' :: rest => (rest.takeWhile Char.isDigit, rest.dropWhile Char.isDigit)
    | rest => ([], rest)
  if whole.length + fraction.length = 0 then none
  else do
    let exponent ← readExponent? afterFraction
    let digits := digitsValue (digitsValue 0 whole) fraction
    some (ofDecimal negative digits (whole.length + fraction.length)
      (exponent - fraction.length))

/-- Reads a double, rounding the decimal to the nearest. -/
def read? (text : String) : Option Binary64 :=
  let (negative, rest) := takeSign text.toList
  let word := String.ofList (rest.map Char.toLower)
  if word = "inf" ∨ word = "infinity" then some (infinite negative)
  else if word = "nan" then some nan
  else readDecimal? negative rest

end Errand.Binary64
