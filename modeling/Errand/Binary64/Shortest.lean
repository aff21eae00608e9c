import Errand.Binary64

/-!
The shortest decimal that reads back as a given double, and its text. The reals that round to a
double form an interval around it (`lower`, `upper`, the ends included when the significand is
even); `shortest` tries the decimal grids from the coarsest on and keeps the nearer of the value's
two neighbours on the first grid that has one in the interval.

`decimalText` lays those digits out: positional from `1e-5` up to below `1e16`, always with a
point, and in exponent form elsewhere.
-/

set_option autoImplicit false

namespace Errand.Binary64

/-- Half the gap to the next double above `units`, in quarters of a unit. -/
def halfGapAbove (units : Nat) : Nat := 2 * Nat.pow 2 (spareBits units)

/-- Half the gap to the next double below `units`, in quarters of a unit: below a power of two the
doubles are twice as dense. -/
def halfGapBelow (units : Nat) : Nat :=
  if units = Nat.pow 2 units.log2 ∧ 0 < spareBits units then Nat.pow 2 (spareBits units)
  else halfGapAbove units

/-- The ends of the interval of reals that round to `units`, in quarters of a unit. -/
def lower (units : Nat) : Nat := 4 * units - halfGapBelow units

def upper (units : Nat) : Nat := 4 * units + halfGapAbove units

/-- Whether the ratio `num / den` of ones rounds to `units`. -/
def roundsTo (units num den : Nat) : Bool :=
  let quarters := 4 * num * one
  if units / Nat.pow 2 (spareBits units) % 2 = 0 then
    lower units * den ≤ quarters && quarters ≤ upper units * den
  else lower units * den < quarters && quarters < upper units * den

/-- The exponent `e` with `10 ^ e ≤ units * 2 ^ -1074 < 10 ^ (e + 1)`, for a positive count of
units. Scaling by `10 ^ 400` makes the number whole up to less than one part in its digits. -/
def decimalExponent (units : Nat) : Int :=
  ((Nat.toDigits 10 (units * Nat.pow 10 400 / one)).length : Int) - 401

/-- The ratio `n * 10 ^ e`, as numerator and denominator. -/
def decimalRatio (n : Nat) (e : Int) : Nat × Nat :=
  if 0 ≤ e then (n * Nat.pow 10 e.toNat, 1) else (n, Nat.pow 10 (-e).toNat)

/-- The best decimal for `units` on the grid of multiples of `10 ^ e`, if one reads back. -/
def onGrid? (units : Nat) (e : Int) : Option Nat :=
  let (num, den) :=
    if 0 ≤ e then (units, one * Nat.pow 10 e.toNat) else (units * Nat.pow 10 (-e).toNat, one)
  let below := num / den
  let reads (n : Nat) : Bool := let (p, q) := decimalRatio n e; roundsTo units p q
  let nearest := nearestEven num den
  let other := if nearest = below then below + 1 else below
  if reads nearest then some nearest else if reads other then some other else none

/-- Drops trailing zeros, counting them into the exponent. -/
def trimZeros (n : Nat) (e : Int) : Nat × Int :=
  if h : n ≠ 0 ∧ n % 10 = 0 then trimZeros (n / 10) (e + 1) else (n, e)
termination_by n
decreasing_by omega

/-- The fewest digits that read back as `units`, nearest to it among those, as `n * 10 ^ e`. The
grid of `10 ^ (top - k)` writes the number with `k + 1` digits; seventeen always suffice. -/
def shortest (units : Nat) : Nat × Int :=
  if units = 0 then (0, 0)
  else
    let top := decimalExponent units
    let found := (List.range 17).findSome? fun (k : Nat) ↦
      (onGrid? units (top - k)).map fun n ↦ trimZeros n (top - k)
    found.getD (0, 0)

/-- The text of `n * 10 ^ e`, with a point or an exponent. -/
def layout (n : Nat) (e : Int) : String :=
  let digits := toString n
  let point : Int := digits.length + e
  if n = 0 then "0.0"
  else if 0 ≤ e ∧ point ≤ 16 then
    digits ++ String.ofList (List.replicate e.toNat '0') ++ ".0"
  else if 0 < point ∧ point ≤ 16 then
    String.ofList (digits.toList.take point.toNat) ++ "."
      ++ String.ofList (digits.toList.drop point.toNat)
  else if -5 < point ∧ point ≤ 0 then
    "0." ++ String.ofList (List.replicate (-point).toNat '0') ++ digits
  else
    let sign := if 0 < point then "+" else "-"
    let mantissa := match digits.toList with
      | [] => ""
      | [d] => String.ofList [d]
      | d :: rest => String.ofList (d :: '.' :: rest)
    mantissa ++ "e" ++ sign ++ toString (point - 1).natAbs

/-- The shortest text that reads back as the number. -/
def decimalText : Binary64 → String
  | nan => "NaN"
  | infinite negative => if negative then "-inf" else "inf"
  | finite negative units =>
    let (n, e) := shortest units
    (if negative then "-" else "") ++ layout n e

end Errand.Binary64
