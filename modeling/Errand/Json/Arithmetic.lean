import Errand.Json

/-!
Calculating with documents. Whole numbers of 64 bits wrap around; what is no such number, and what
has no result, comes out as `null`.
-/

set_option autoImplicit false

namespace Errand.Json

/-- The whole number that a document is, if it has 64 bits with a sign. -/
def word? : Json → Option Int
  | number (.whole n) => if -Int.pow 2 63 ≤ n ∧ n < Int.pow 2 63 then some n else none
  | _ => none

/-- A calculation on two whole numbers, its result wrapped to 64 bits. -/
def calculate (f : Int → Int → Option Int) (a b : Json) : Json :=
  match a.word?, b.word? with
  | some m, some n => (f m n).elim null fun r ↦ int (r.bmod (Nat.pow 2 64))
  | _, _ => null

def sum : Json → Json → Json := calculate fun m n ↦ some (m + n)

def difference : Json → Json → Json := calculate fun m n ↦ some (m - n)

def product : Json → Json → Json := calculate fun m n ↦ some (m * n)

/-- The bits in which two numbers differ, in two's complement. -/
def exclusiveOr : Json → Json → Json := calculate fun m n ↦
  some (((m % Int.pow 2 64).toNat ^^^ (n % Int.pow 2 64).toNat : Nat) : Int)

/-- The remainder that is not below zero; there is none for zero, nor where the quotient has more
than 64 bits. -/
def remainder : Json → Json → Json := calculate fun m n ↦
  if n = 0 ∨ (m = -Int.pow 2 63 ∧ n = -1) then none else some (m % n)

/-- Whether both are whole numbers and the first is less. -/
def isLess (a b : Json) : Bool :=
  match a.word?, b.word? with
  | some m, some n => m < n
  | _, _ => false

/-- The number of characters of a string or of items of a list. -/
def size : Json → Json
  | string s => nat s.length
  | array items => nat items.length
  | _ => null

/-- A member of an object by its name, or an item of a list by its place. -/
def part (j key : Json) : Json :=
  match j, key with
  | object _, string name => (j.member? name).getD null
  | array items, number (.whole n) => if n < 0 then null else (items[n.toNat]?).getD null
  | _, _ => null

/-- The text of a document: a string is itself, anything else its compact form. -/
def plainText : Json → String
  | string s => s
  | j => j.text

end Errand.Json
