import Errand.Program

/-!
Programs as texts: their values, requests and parts, and the number of steps of a sequence. The
continuations themselves do not show.
-/

set_option autoImplicit false

namespace Errand

/-- Texts in brackets, separated by commas. -/
def listed (items : List String) : String := "[" ++ ", ".intercalate items ++ "]"

def sequenceText (first : String) (steps : Nat) : String :=
  "Sequence \x7b first: " ++ first ++ ", steps: " ++ toString steps ++ " \x7d"

mutual

def Plan.text {V : ValueTypes} {S : Type} : Plan V S → String
  | .done value => "Done(" ++ value.text ++ ")"
  | .empty => "Empty"
  | .submit request => "Submit(" ++ request.label ++ ")"
  | .sequence first steps => sequenceText first.text steps.length
  | .concat parts => "Concat(" ++ listed (Plan.texts parts) ++ ")"
  | .mistyped => "Mistyped"

def Plan.texts {V : ValueTypes} {S : Type} : List (Plan V S) → List String
  | [] => []
  | p :: parts => p.text :: Plan.texts parts

end

mutual

/-- A program as a text, given the texts of its values. -/
def Program.text {V : ValueTypes} {S α : Type} (valueText : α → String) :
    Program V α S → String
  | .done a => "Done(" ++ valueText a ++ ")"
  | .empty => "Empty"
  | .submit request => "Submit(" ++ request.label ++ ")"
  | .sequence first steps => sequenceText first.text steps.length
  | .concat parts => "Concat(" ++ listed (Program.texts valueText parts) ++ ")"

def Program.texts {V : ValueTypes} {S α : Type} (valueText : α → String) :
    List (Program V α S) → List String
  | [] => []
  | p :: parts => p.text valueText :: Program.texts valueText parts

end

end Errand
