import Errand.Text.Blank
import Errand.Text.Form

/-!
Tables over code points. A table is written as words parted by white space, in increasing order: the
first and the last code point of a range in hexadecimal, with a hyphen between them unless there is
only one, and after a colon what is said of the range.
-/

set_option autoImplicit false

namespace Errand

/-- What is said of the code points from `first` to `last`. -/
structure CodeTable.Row (α : Type) where
  first : Nat
  last : Nat
  value : α

/-- Rows in increasing order, no two of which overlap. -/
structure CodeTable (α : Type) where
  rows : Array (CodeTable.Row α)

namespace CodeTable

variable {α : Type}

/-- The value of hexadecimal digits. -/
def number (digits : List Char) : Nat :=
  digits.foldl (fun n c ↦ 16 * n + (Form.hexValue? c).getD 0) 0

/-- One text for each code point of a range, parted by commas; its code points are parted by plus
signs. -/
def texts (value : List Char) : Array (List Nat) :=
  ((Form.splitAt ',' value).map fun text ↦ (Form.splitAt '+' text).map number).toArray

/-- The value of a table that only tells which code points are in it. -/
def mark (_ : List Char) : Unit := ()

/-- The text after the first occurrence of a character. -/
def after (c : Char) (text : List Char) : List Char := (text.dropWhile (· ≠ c)).drop 1

def Row.ofWord (read : List Char → α) (word : List Char) : Row α :=
  let span := word.takeWhile (· ≠ ':')
  let first := number (span.takeWhile (· ≠ '-'))
  let last := if span.contains '-' then number (after '-' span) else first
  ⟨first, last, read (after ':' word)⟩

def ofText (read : List Char → α) (text : String) : CodeTable α :=
  ⟨((Blank.words text.toList).map (Row.ofWord read)).toArray⟩

/-- The row of a code point among those from `low` on and before `high`, by halving. -/
def searchRow (rows : Array (Row α)) (n low high : Nat) : Option (Row α) :=
  if low < high then
    let middle := (low + high) / 2
    match rows[middle]? with
    | none => none
    | some row =>
      if n < row.first then searchRow rows n low middle
      else if row.last < n then searchRow rows n (middle + 1) high
      else some row
  else none
termination_by high - low

def row? (table : CodeTable α) (n : Nat) : Option (Row α) :=
  searchRow table.rows n 0 table.rows.size

def find? (table : CodeTable α) (n : Nat) : Option α := (table.row? n).map Row.value

def has (table : CodeTable α) (n : Nat) : Bool := (table.row? n).isSome

/-- The text of a code point, in a table that has one for each. -/
def findText? (table : CodeTable (Array (List Nat))) (n : Nat) : Option (List Nat) :=
  (table.row? n).bind fun row ↦ row.value[n - row.first]?

end CodeTable

end Errand
