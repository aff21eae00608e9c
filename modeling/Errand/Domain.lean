import Errand.Domain.Alphabet
import Errand.Domain.Direction
import Errand.Domain.Joining
import Errand.Text.Canonical
import Errand.Text.Punycode

/-!
Domain names in all scripts, and the names in ASCII that stand for them. A name is first brought to
its usual characters and composed; then each label that is not ASCII is written in Punycode behind
a marker. A label that comes with the marker must stand for a label that would be written so.
-/

set_option autoImplicit false

namespace Errand.Domain

/-- The longest label that is written in Punycode, and the longest code that is read. -/
def longestLabel : Nat := 1000
def longestCode : Nat := 2000

/-- The code of a label that begins with the marker. -/
def code? : List Char → Option (List Char)
  | 'x' :: 'n' :: '-' :: '-' :: code => some code
  | _ => none

/-- A label in ASCII, in Punycode where it has other characters. -/
def asciiLabel (label : List Char) : List Char :=
  if label.all Punycode.isBasic then label
  else 'x' :: 'n' :: '-' :: '-' :: Punycode.encode label

/-- The label that a code stands for. A code ends in no hyphen, because it stands for more than
ASCII. -/
def decoded? (code : List Char) : Option (List Char) := do
  if code.length ≤ longestCode ∧ code.getLast? ≠ some '-' ∧ code ≠ [] then
    let label ← Punycode.decode? code
    let codes := label.map Char.toNat
    if codes.all isKept ∧ Canonical.compose codes = codes then some label else none
  else none

/-- A label in its own characters, if it may stand in a name. -/
def shown? (label : List Char) : Option (List Char) := do
  let shown ← match code? label with
    | some code => decoded? code
    | none => some label
  let codes := shown.map Char.toNat
  let short := shown.all Punycode.isBasic || shown.length ≤ longestLabel
  if short ∧ ¬ codes.head?.any marks.has ∧ joinersFit [] codes then some shown else none

/-- Whether the labels of a name keep to one direction each, where that matters. -/
def isSettled (labels : List (List Char)) : Bool :=
  let codes := labels.map (·.map Char.toNat)
  !codes.any (·.any Direction.isTurning) || codes.all Direction.isSettled

/-- A name in its usual characters. -/
def usual? (name : List Char) : Option (List Char) := do
  let codes ← (name.map Char.toNat).mapM mapped?
  some ((Canonical.compose codes.flatten).map Char.ofNat)

/-- A name in ASCII. One in ASCII without a marker is only lowered. -/
def ascii? (name : List Char) : Option (List Char) := do
  let lowered := name.map Char.toLower
  if name.all Punycode.isBasic ∧ (Form.splitAt '.' lowered).all (code? · = none) then some lowered
  else
    let labels := Form.splitAt '.' (← usual? name)
    if isSettled (← labels.mapM shown?) then
      some (List.intercalate ['.'] (labels.map asciiLabel))
    else none

end Errand.Domain
