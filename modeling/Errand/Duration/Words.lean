import Errand.Duration
import Errand.Text.Blank

/-!
Spans of time in words, as people write them in settings: `1h 30m`, `250ms`, `2days`. `words`
writes a span from years down to nanoseconds; `read` accepts any list of numbers with units, the
units in any order and repeated at will.
-/

set_option autoImplicit false

namespace Errand.Duration

/-- Why words give no span. -/
inductive WordsFault where
  | notASpan
  /-- Parts of seconds add up to one second past the last that can be counted. -/
  | overflow
  deriving DecidableEq, Repr

/-- A unit of time. Whole numbers of it are counted in `wholeGrain`s and fractions of it in
`fractionGrain`s, both in nanoseconds; the shortest unit takes no fraction. -/
structure TimeUnit where
  nanos : Nat
  wholeGrain : Nat
  fractionGrain : Option Nat

/-- The unit with the given name. -/
def TimeUnit.named? (name : String) : Option TimeUnit :=
  if name ∈ ["ns", "nsec", "nanos"] then some ⟨1, 1, none⟩
  else if name ∈ ["us", "usec", "µs"] then some ⟨1000, 1, some 1⟩
  else if name ∈ ["ms", "msec", "millis"] then some ⟨1000000, 1, some 1⟩
  else if name ∈ ["s", "sec", "secs", "second", "seconds"] then
    some ⟨nanosPerSecond, nanosPerSecond, some 1⟩
  else if name ∈ ["m", "min", "mins", "minute", "minutes"] then
    some ⟨60 * nanosPerSecond, nanosPerSecond, some 1⟩
  else if name ∈ ["h", "hr", "hrs", "hour", "hours"] then seconds 3600
  else if name ∈ ["d", "day", "days"] then seconds 86400
  else if name ∈ ["w", "wk", "wks", "week", "weeks"] then seconds 604800
  else if name ∈ ["M", "month", "months"] then seconds 2630016
  else if name ∈ ["y", "yr", "yrs", "year", "years"] then seconds 31557600
  else none
where
  seconds (n : Nat) : Option TimeUnit :=
    some ⟨n * nanosPerSecond, nanosPerSecond, some nanosPerSecond⟩

/-- A number that fits a counter of 64 bits. -/
def counted? (n : Nat) : Option Nat := if n < Nat.pow 2 64 then some n else none

/-- The number written by the digits among some characters. -/
def number? (digits : List Char) : Option Nat :=
  counted? (digits.foldl (fun n d ↦ 10 * n + (d.toNat - '0'.toNat)) 0)

/-- The characters a unit is written with. -/
def isUnitChar (c : Char) : Bool := c.isAlpha || c = 'µ'

def isDigitOrBlank (c : Char) : Bool := c.isDigit || Blank.isBlank c

/-- Adds `count` grains of so many nanoseconds to a total. Parts of a second that fill up exactly
one are carried, even out of the last second; any other total that is too long is none at all. -/
def addGrains (total count grain : Nat) : Except WordsFault Nat :=
  let sum := total + count * grain
  if (counted? count).isNone then .error .notASpan
  else if grain ≠ nanosPerSecond ∧ (counted? (total % nanosPerSecond + count)).isNone then
    .error .notASpan
  else if sum < limit then .ok sum
  else if sum = limit ∧ grain ≠ nanosPerSecond ∧ limit - nanosPerSecond ≤ total then
    .error .overflow
  else .error .notASpan

/-- What is there, or no span. -/
def orNotASpan {α : Type} : Option α → Except WordsFault α
  | some a => .ok a
  | none => .error .notASpan

/-- The digits of a fraction as a numerator and a denominator. -/
def readFraction (digits : List Char) : Except WordsFault (Nat × Nat) := do
  let numerator ← orNotASpan (number? digits)
  let denominator ← orNotASpan (counted? (Nat.pow 10 digits.length))
  if digits = [] then .error .notASpan else .ok (numerator, denominator)

/-- Adds a number with a unit to a total; the fraction must be a whole number of grains. -/
def addItem (total : Nat) (whole : List Char) (fraction : Option (List Char))
    (unit : List Char) : Except WordsFault Nat := do
  let n ← orNotASpan (number? whole)
  let fraction ← fraction.mapM readFraction
  let unit ← orNotASpan (TimeUnit.named? (String.ofList unit))
  let total ← addGrains total (n * (unit.nanos / unit.wholeGrain)) unit.wholeGrain
  match fraction with
  | none => .ok total
  | some (numerator, denominator) =>
    let grain ← orNotASpan unit.fractionGrain
    let scaled ← orNotASpan (counted? (numerator * (unit.nanos / grain)))
    if scaled % denominator ≠ 0 then .error .notASpan
    else addGrains total (scaled / denominator) grain

/-- Splits off a fraction with its point. -/
def takeFraction : List Char → Option (List Char) × List Char
  | '.' :: rest =>
    (some ((rest.takeWhile isDigitOrBlank).filter Char.isDigit), rest.dropWhile isDigitOrBlank)
  | rest => (none, rest)

theorem length_takeFraction_le (text : List Char) :
    (takeFraction text).2.length ≤ text.length := by
  unfold takeFraction
  split
  · exact Nat.le_succ_of_le (List.dropWhile_sublist _).length_le
  · exact Nat.le_refl _

/-- Whether the rest of a text may follow a unit. -/
def endsUnit : List Char → Bool
  | [] => true
  | c :: _ => isDigitOrBlank c

/-- Adds the numbers and units of a text to a total. -/
def readItems (total : Nat) (text : List Char) : Except WordsFault Nat :=
  match _h : text.dropWhile Blank.isBlank with
  | [] => .ok total
  | c :: rest =>
    if c.isDigit then
      let whole := c :: (rest.takeWhile isDigitOrBlank).filter Char.isDigit
      let afterWhole := rest.dropWhile isDigitOrBlank
      let fraction := (takeFraction afterWhole).1
      let afterNumber := (takeFraction afterWhole).2
      let unit := afterNumber.takeWhile isUnitChar
      let afterUnit := afterNumber.dropWhile isUnitChar
      if endsUnit afterUnit then
        match addItem total whole fraction unit with
        | .ok total => readItems total afterUnit
        | .error fault => .error fault
      else .error .notASpan
    else .error .notASpan
termination_by text.length
decreasing_by
  have h₁ := (List.dropWhile_sublist (l := text) Blank.isBlank).length_le
  have h₂ := (List.dropWhile_sublist (l := rest) isDigitOrBlank).length_le
  have h₃ := length_takeFraction_le (rest.dropWhile isDigitOrBlank)
  have h₄ := (List.dropWhile_sublist isUnitChar
    (l := (takeFraction (rest.dropWhile isDigitOrBlank)).2)).length_le
  rw [_h] at h₁
  simp only [List.length_cons] at h₁
  omega

/-- Reads a span in words; a lone `0` needs no unit. -/
def read (text : String) : Except WordsFault Duration :=
  if text = "0" then .ok zero
  else if text.toList.all Blank.isBlank then .error .notASpan
  else (readItems 0 text.toList).bind fun nanos ↦ orNotASpan (ofNanos? nanos)

/-- One part of a written span: nothing for a count of zero. -/
def part (count : Nat) (unit : String) : List String :=
  if count = 0 then [] else [toString count ++ unit]

/-- A part whose unit takes a final `s` from two on. -/
def pluralPart (count : Nat) (unit : String) : List String :=
  part count (if count = 1 then unit else unit ++ "s")

/-- A span in words, largest unit first. -/
def words (d : Duration) : String :=
  let inYear := d.seconds % 31557600
  let inMonth := inYear % 2630016
  let inDay := inMonth % 86400
  let parts := pluralPart (d.seconds / 31557600) "year" ++ pluralPart (inYear / 2630016) "month"
    ++ pluralPart (inMonth / 86400) "day" ++ part (inDay / 3600) "h"
    ++ part (inDay % 3600 / 60) "m" ++ part (inDay % 60) "s"
    ++ part (d.subsecond / 1000000) "ms" ++ part (d.subsecond / 1000 % 1000) "us"
    ++ part (d.subsecond % 1000) "ns"
  if d.nanos = 0 then "0s" else " ".intercalate parts

end Errand.Duration
