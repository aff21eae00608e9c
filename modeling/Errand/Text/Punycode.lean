/-!
Punycode: a text over all of Unicode as one over letters, digits and hyphens. The basic characters
stand first; after the last hyphen, each other character is a number that says how far to count
through pairs of a character and a place for it. Numbers are written with the lowest digit first, in
a base that adapts to the size of the numbers before.
-/

set_option autoImplicit false

namespace Errand.Punycode

/-- The digit for a value below 36. -/
def digit (n : Nat) : Char := if n < 26 then Char.ofNat (97 + n) else Char.ofNat (22 + n)

def digitValue? (c : Char) : Option Nat :=
  let n := c.toNat
  if 97 ≤ n ∧ n ≤ 122 then some (n - 97)
  else if 65 ≤ n ∧ n ≤ 90 then some (n - 65)
  else if 48 ≤ n ∧ n ≤ 57 then some (n - 22)
  else none

/-- The least value of a digit at a position that is not the last of its number. -/
def threshold (position bias : Nat) : Nat := max 1 (min 26 (position - bias))

/-- Takes the factor 35 out of a number while it is large, counting by 36. -/
def shrink (delta count : Nat) : Nat × Nat :=
  if h : 455 < delta then shrink (delta / 35) (count + 36) else (delta, count)
termination_by delta
decreasing_by exact Nat.div_lt_self (Nat.lt_trans (by decide) h) (by decide)

/-- The bias after a number, with so many characters placed. -/
def adapt (delta placed : Nat) (first : Bool) : Nat :=
  let scaled := if first then delta / 700 else delta / 2
  let (rest, count) := shrink (scaled + scaled / placed) 0
  count + 36 * rest / (rest + 38)

/-- The digits of a number. -/
def writeNumber (bias position n : Nat) : List Char :=
  let t := threshold position bias
  if n < t then [digit n]
  else digit (t + (n - t) % (36 - t)) :: writeNumber bias (position + 36) ((n - t) / (36 - t))
termination_by n
decreasing_by
  have : 1 ≤ threshold position bias := Nat.le_max_left _ _
  exact Nat.lt_of_le_of_lt (Nat.div_le_self _ _) (by omega)

/-- What has been written, and where the count stands. -/
structure Writing where
  output : List Char
  delta : Nat
  bias : Nat
  placed : Nat

/-- Passes a character while the characters with the value `n` are placed. -/
def place (basic n : Nat) (w : Writing) (c : Char) : Writing :=
  if c.toNat < n then { w with delta := w.delta + 1 }
  else if c.toNat = n then
    { output := w.output ++ writeNumber w.bias 36 w.delta
      delta := 0
      bias := adapt w.delta (w.placed + 1) (w.placed = basic)
      placed := w.placed + 1 }
  else w

/-- Places the characters of all the values, which increase; the count stands before `n`. -/
def placeAll (text : List Char) (basic : Nat) : List Nat → Nat → Writing → Writing
  | [], _, w => w
  | value :: values, n, w =>
    let w := { w with delta := w.delta + (value - n) * (w.placed + 1) }
    let w := text.foldl (place basic value) w
    placeAll text basic values (value + 1) { w with delta := w.delta + 1 }

/-- Puts a value into an increasing list. -/
def insertValue (x : Nat) : List Nat → List Nat
  | [] => [x]
  | y :: ys => if x < y then x :: y :: ys else if x = y then y :: ys else y :: insertValue x ys

def isBasic (c : Char) : Bool := c.toNat < 0x80

def encode (text : List Char) : List Char :=
  let basic := text.filter isBasic
  let values := (text.filter (!isBasic ·)).foldr (fun c values ↦ insertValue c.toNat values) []
  let hyphen := if basic.isEmpty then [] else ['-']
  basic ++ hyphen ++ (placeAll text basic.length values 0x80 ⟨[], 0, 72, basic.length⟩).output

/-- Reads a number onto `n`, the next digit counting `weight`. -/
def readNumber (bias : Nat) : Nat → Nat → Nat → List Char → Option (Nat × List Char)
  | _, _, _, [] => none
  | position, weight, n, c :: rest => do
    let d ← digitValue? c
    let t := threshold position bias
    if d < t then some (n + d * weight, rest)
    else readNumber bias (position + 36) (weight * (36 - t)) (n + d * weight) rest

/-- Reads the numbers of a text and places their characters into `output`; the count stands at the
value `n` and the place `i`. `fuel` is at least the length of the text. -/
def readAll : Nat → Nat → Nat → Nat → List Char → List Char → Option (List Char)
  | _, _, _, _, output, [] => some output
  | 0, _, _, _, _, _ :: _ => none
  | fuel + 1, bias, n, i, output, text => do
    let (index, rest) ← readNumber bias 36 1 i text
    let places := output.length + 1
    let value := n + index / places
    let c := Char.ofNat value
    if value.isValidChar ∧ index - i < Nat.pow 2 32 then
      let spot := index % places
      readAll fuel (adapt (index - i) places (output.all isBasic)) value
        (spot + 1) (output.take spot ++ c :: output.drop spot) rest
    else none

/-- The text before the last hyphen and the text after it; a hyphen at the beginning parts
nothing. -/
def splitLast (text : List Char) : List Char × List Char :=
  let tail := (text.reverse.takeWhile (· ≠ '-')).reverse
  let front := text.take (text.length - tail.length - 1)
  if front.isEmpty then ([], text) else (front, tail)

/-- The text that was encoded, if there is one. -/
def decode? (text : List Char) : Option (List Char) :=
  let (basic, numbers) := splitLast text
  if basic.all isBasic then readAll numbers.length 72 0x80 0 basic numbers else none

end Errand.Punycode
