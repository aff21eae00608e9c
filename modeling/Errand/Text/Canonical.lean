import Errand.Text.Canonical.Class
import Errand.Text.Canonical.Decomposition

/-!
Texts up to canonical equivalence. `compose` gives the one form of a text in which all characters
are taken apart, marks stand in the order of their classes, and then letters and marks are put
together again where there is a character for them.
-/

set_option autoImplicit false

namespace Errand.Canonical

/-! ### Hangul -/

/-- The first syllable and the characters before the first of each kind of part. -/
def syllableBase : Nat := 0xAC00
def leadBase : Nat := 0x1100
def vowelBase : Nat := 0x1161
def tailBase : Nat := 0x11A7

/-- How many there are of each; the tails count their absence. -/
def leads : Nat := 19
def vowels : Nat := 21
def tails : Nat := 28

/-- The parts of a syllable. -/
def syllableParts (n : Nat) : List Nat :=
  let index := n - syllableBase
  let tail := index % tails
  [leadBase + index / (vowels * tails), vowelBase + index / tails % vowels]
    ++ if tail = 0 then [] else [tailBase + tail]

def isSyllable (n : Nat) : Bool := syllableBase ≤ n && n < syllableBase + leads * vowels * tails

/-- The syllable of a lead and a vowel, or of a syllable without a tail and a tail. -/
def syllable? (a b : Nat) : Option Nat :=
  if leadBase ≤ a ∧ a < leadBase + leads ∧ vowelBase ≤ b ∧ b < vowelBase + vowels then
    some (syllableBase + ((a - leadBase) * vowels + (b - vowelBase)) * tails)
  else if isSyllable a ∧ (a - syllableBase) % tails = 0 ∧ tailBase < b ∧ b < tailBase + tails then
    some (a + (b - tailBase))
  else none

/-! ### Taking apart -/

/-- A character taken apart by up to so many steps. -/
def apart : Nat → Nat → List Nat
  | 0, n => [n]
  | steps + 1, n =>
    if isSyllable n then syllableParts n
    else match decompositions.findText? n with
      | some text => text.flatMap (apart steps)
      | none => [n]

/-- The steps that suffice for every character. -/
def depth : Nat := 4

/-- Marks in the order of their classes; those of one class keep theirs. -/
def sortMarks (marks : List Nat) : List Nat :=
  marks.mergeSort fun a b ↦ classOf a ≤ classOf b

/-- Puts each run of marks in order; `run` holds the marks before the text, last first. -/
def orderedFrom (run : List Nat) : List Nat → List Nat
  | [] => sortMarks run.reverse
  | n :: rest =>
    if classOf n = 0 then sortMarks run.reverse ++ n :: orderedFrom [] rest
    else orderedFrom (n :: run) rest

def decompose (text : List Nat) : List Nat := orderedFrom [] (text.flatMap (apart depth))

/-! ### Putting together -/

/-- The pairs that are put together, each with what it makes. -/
def pairs : List (Nat × Nat × Nat) :=
  decompositions.rows.toList.flatMap fun row ↦
    row.value.toList.zipIdx.filterMap fun (text, i) ↦
      match text with
      | [a, b] => if excluded.has (row.first + i) then none else some (a, b, row.first + i)
      | _ => none

def pair? (a b : Nat) : Option Nat :=
  match syllable? a b with
  | some n => some n
  | none => pairs.findSome? fun (first, second, n) ↦
    if first = a ∧ second = b then some n else none

/-- A text that ends in a character of class zero and marks that it has not taken up. -/
structure Cluster where
  base : Nat
  /-- Last first. -/
  marks : List Nat

/-- Adds a character to a cluster, or gives `none` if it begins the next one. A mark is kept away
from the base by one before it of the same class or a higher one. -/
def Cluster.add? (cluster : Cluster) (n : Nat) : Option Cluster :=
  let reaches := match cluster.marks with
    | [] => true
    | mark :: _ => classOf mark < classOf n
  match if reaches then pair? cluster.base n else none with
  | some whole => some { cluster with base := whole }
  | none => if classOf n = 0 then none else some { cluster with marks := n :: cluster.marks }

def Cluster.toList (cluster : Cluster) : List Nat := cluster.base :: cluster.marks.reverse

/-- Puts together what follows a cluster. -/
def composeFrom (cluster : Cluster) : List Nat → List Nat
  | [] => cluster.toList
  | n :: rest =>
    match cluster.add? n with
    | some larger => composeFrom larger rest
    | none => cluster.toList ++ composeFrom ⟨n, []⟩ rest

def compose (text : List Nat) : List Nat :=
  let parts := decompose text
  let rest := parts.dropWhile (classOf · ≠ 0)
  parts.takeWhile (classOf · ≠ 0) ++
    match rest with
    | [] => []
    | n :: rest => composeFrom ⟨n, []⟩ rest

end Errand.Canonical
