import Errand.Binary64

/-!
Spans of time in whole nanoseconds, below `2 ^ 64` seconds. Sums and differences stop at the two
ends of the range. `ofSeconds?` rounds a double once, to the nearest nanosecond and to the even one
on a tie; `text` shows a span in its largest fitting unit.
-/

set_option autoImplicit false

namespace Errand

/-- Nanoseconds in a second. -/
def nanosPerSecond : Nat := 1000000000

/-- The number of nanoseconds from which a span is too long. -/
def Duration.limit : Nat := Nat.pow 2 64 * nanosPerSecond

structure Duration where
  nanos : Nat
  nanos_lt : nanos < Duration.limit
  deriving DecidableEq

namespace Duration

theorem limit_pos : 0 < limit := by decide

def zero : Duration := ⟨0, limit_pos⟩

/-- The longest span. -/
def longest : Duration := ⟨limit - 1, Nat.sub_lt limit_pos Nat.one_pos⟩

instance : Inhabited Duration := ⟨zero⟩

/-- The span of so many nanoseconds, if it is not too long. -/
def ofNanos? (nanos : Nat) : Option Duration :=
  if h : nanos < limit then some ⟨nanos, h⟩ else none

/-- The span of so many nanoseconds, or the longest one. -/
def saturated (nanos : Nat) : Duration := (ofNanos? nanos).getD longest

def ofSeconds (seconds : UInt64) : Duration :=
  ⟨seconds.toNat * nanosPerSecond,
    (Nat.mul_lt_mul_right (by decide)).2 seconds.toNat_lt⟩

/-- Whole seconds of a span. -/
def seconds (d : Duration) : Nat := d.nanos / nanosPerSecond

/-- Nanoseconds beyond the whole seconds. -/
def subsecond (d : Duration) : Nat := d.nanos % nanosPerSecond

def add (d e : Duration) : Duration := saturated (d.nanos + e.nanos)

def sub (d e : Duration) : Duration :=
  ⟨d.nanos - e.nanos, Nat.lt_of_le_of_lt (Nat.sub_le _ _) d.nanos_lt⟩

/-- The longer of two spans. -/
def max (d e : Duration) : Duration := if d.nanos < e.nanos then e else d

/-- The span in seconds as a double: whole seconds and the fraction are rounded apart, then their
sum. -/
def toSeconds (d : Duration) : Binary64 :=
  (Binary64.ofNat d.seconds).add ((Binary64.ofNat d.subsecond).div (Binary64.ofNat nanosPerSecond))

/-- The span of a number of seconds, if that is a number, not below zero and not too long. -/
def ofSeconds? : Binary64 → Option Duration
  | .nan | .infinite _ => none
  | .finite negative units =>
    if negative && units ≠ 0 then none
    else ofNanos? (nearestEven (units * nanosPerSecond) Binary64.one)

/-- The fraction `part / whole` as decimal digits after a point, without trailing zeros; nothing
at all for zero. `whole` is a power of ten and `places` its exponent. -/
def fractionText (part places : Nat) : String :=
  let digits := Nat.toDigits 10 part
  let padded := List.replicate (places - digits.length) '0' ++ digits
  let kept := (padded.reverse.dropWhile (· = '0')).reverse
  if kept.isEmpty then "" else String.ofList ('.' :: kept)

/-- The span in seconds, milliseconds, microseconds or nanoseconds, whichever is the largest unit
that leaves a whole part. -/
def text (d : Duration) : String :=
  let n := d.nanos
  if nanosPerSecond ≤ n then
    toString (n / nanosPerSecond) ++ fractionText (n % nanosPerSecond) 9 ++ "s"
  else if 1000000 ≤ n then toString (n / 1000000) ++ fractionText (n % 1000000) 6 ++ "ms"
  else if 1000 ≤ n then toString (n / 1000) ++ fractionText (n % 1000) 3 ++ "µs"
  else toString n ++ "ns"

end Duration

end Errand
