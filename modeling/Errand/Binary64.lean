/-!
Double-precision numbers, computed exactly. A finite number is a sign and a whole count of the
smallest positive double, `2 ^ -1074`; every operation forms the exact result as a ratio of two
naturals and rounds it once, to the nearest double and to the even neighbour on a tie.

`roundUnits` is the one rounding step; `add`, `mul`, `div`, `ofNat` and `ofDecimal` differ only in
the exact ratio they hand to it.
-/

set_option autoImplicit false

namespace Errand

inductive Binary64 where
  | nan
  | infinite (negative : Bool)
  /-- The number `units * 2 ^ -1074`, negated if `negative`; zero has two signs. -/
  | finite (negative : Bool) (units : Nat)
  deriving DecidableEq, Repr, Inhabited

/-- The whole number nearest to `num / den`, the even one of two equally near. -/
def nearestEven (num den : Nat) : Nat :=
  let quotient := num / den
  let twice := 2 * (num % den)
  if twice < den ∨ (twice = den ∧ quotient % 2 = 0) then quotient else quotient + 1

namespace Binary64

/-- The number of units in one. -/
def one : Nat := Nat.pow 2 1074

/-- The least magnitude, in units, that is no longer finite. -/
def overflow : Nat := Nat.pow 2 2098

/-- How many low bits a magnitude of `units` has to spare beyond 53 significant ones. -/
def spareBits (units : Nat) : Nat := units.log2 - 52

/-- The units nearest to `num / den` among those with 53 significant bits. -/
def roundUnits (num den : Nat) : Nat :=
  let spare := spareBits (num / den)
  nearestEven num (den * Nat.pow 2 spare) * Nat.pow 2 spare

/-- The double nearest to `num / den` units, with the given sign. -/
def ofUnits (negative : Bool) (num den : Nat) : Binary64 :=
  let units := roundUnits num den
  if units < overflow then finite negative units else infinite negative

def zero : Binary64 := finite false 0

/-- The double nearest to the ratio `num / den`, with the given sign. -/
def ofRatio (negative : Bool) (num den : Nat) : Binary64 := ofUnits negative (num * one) den

def ofNat (n : Nat) : Binary64 := ofRatio false n 1

def ofInt (n : Int) : Binary64 := ofRatio (n < 0) n.natAbs 1

def neg : Binary64 → Binary64
  | nan => nan
  | infinite s => infinite (!s)
  | finite s u => finite (!s) u

def abs : Binary64 → Binary64
  | nan => nan
  | infinite _ => infinite false
  | finite _ u => finite false u

def mul : Binary64 → Binary64 → Binary64
  | nan, _ | _, nan => nan
  | infinite s, infinite t => infinite (s != t)
  | infinite s, finite t u | finite s u, infinite t => if u = 0 then nan else infinite (s != t)
  | finite s u, finite t v => ofUnits (s != t) (u * v) one

def div : Binary64 → Binary64 → Binary64
  | nan, _ | _, nan => nan
  | infinite _, infinite _ => nan
  | infinite s, finite t _ => infinite (s != t)
  | finite s _, infinite t => finite (s != t) 0
  | finite s u, finite t v =>
    if v = 0 then (if u = 0 then nan else infinite (s != t))
    else ofUnits (s != t) (u * one) v

/-- The signed count of units of a finite number. -/
def signed (negative : Bool) (units : Nat) : Int := if negative then -units else units

def add : Binary64 → Binary64 → Binary64
  | nan, _ | _, nan => nan
  | infinite s, infinite t => if s = t then infinite s else nan
  | infinite s, finite _ _ | finite _ _, infinite s => infinite s
  | finite s u, finite t v =>
    let sum := signed s u + signed t v
    if sum = 0 then finite (s && t) 0 else ofUnits (sum < 0) sum.natAbs 1

/-- `le x y` holds when both are numbers and `x` is at most `y`; the two zeros are equal. -/
def le : Binary64 → Binary64 → Bool
  | nan, _ | _, nan => false
  | infinite s, infinite t => s || !t
  | infinite s, finite _ _ => s
  | finite _ _, infinite t => !t
  | finite s u, finite t v => signed s u ≤ signed t v

/-- Numerical equality: the two zeros are equal, and nothing equals `nan`. -/
def eq (x y : Binary64) : Bool := le x y && le y x

/-- Multiplies `acc` by `base ^ n`, squaring the base once for each binary digit of `n`. -/
def powAux (acc base : Binary64) (n : Nat) : Binary64 :=
  let acc := if n % 2 = 1 then mul acc base else acc
  if h : n / 2 = 0 then acc else powAux acc (mul base base) (n / 2)
termination_by n
decreasing_by omega

/-- The power with a natural exponent, by repeated squaring. -/
def pow (base : Binary64) (n : Nat) : Binary64 := powAux (ofNat 1) base n

/-- The double nearest to `digits * 10 ^ exponent`. Exponents far outside the range of doubles
are decided without computing the power: with at most `count` digits the value is below
`10 ^ (count + exponent)`. -/
def ofDecimal (negative : Bool) (digits : Nat) (count : Nat) (exponent : Int) : Binary64 :=
  if digits = 0 then finite negative 0
  else if 310 < exponent then infinite negative
  else if (count : Int) + exponent < -330 then finite negative 0
  else if 0 ≤ exponent then ofRatio negative (digits * Nat.pow 10 exponent.toNat) 1
  else ofRatio negative digits (Nat.pow 10 (-exponent).toNat)

end Binary64

end Errand
