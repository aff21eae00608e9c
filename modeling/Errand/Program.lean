import Errand.Plan

/-!
Programs: descriptions of dependent requests that yield values of one type. A program is built
from values and requests with `concat`, `map`, `filter` and `flatMap`; building one does nothing.

Values are transformed at once and requests stay single requests. `flatMap` on a request makes a
sequence: that request, its value erased, and one step. Every further operator on a sequence adds
one step beside the others, so a chain of any length keeps its request in front.

The continuations of a program are functions unless other names for them are given.
-/

set_option autoImplicit false

namespace Errand

inductive Program (V : ValueTypes) (α : Type) (S : Type := Step V) where
  | done (value : α)
  | empty
  | submit (request : Request α)
  /-- A plan and the steps its values pass through, of which the last added stands in front. -/
  | sequence (first : Plan V S) (steps : List S)
  | concat (parts : List (Program V α S))

namespace Program

variable {V : ValueTypes} {S α β : Type}

instance : Inhabited (Program V α S) := ⟨empty⟩

/-! ### Making programs -/

def ofOption : Option α → Program V α S
  | some a => done a
  | none => empty

/-- Does every part in order. No parts are nothing to do, and a single part stands for itself. -/
def ofParts : List (Program V α S) → Program V α S
  | [] => empty
  | [p] => p
  | parts => concat parts

/-- Yields every value in order. -/
def ofList (values : List α) : Program V α S := ofParts (values.map done)

/-! ### Erasure -/

mutual

/-- The plan of a program. -/
def erase [Carried V α] : Program V α S → Plan V S
  | done a => .done (Carried.erase a)
  | empty => .empty
  | submit request => .submit (request.mapResponse Carried.erase)
  | sequence first steps => .sequence first steps
  | concat parts => .concat (eraseParts parts)

def eraseParts [Carried V α] : List (Program V α S) → List (Plan V S)
  | [] => []
  | p :: parts => erase p :: eraseParts parts

end

/-- The step that recovers a value and goes on with the plan made from it. -/
def stepWith (V : ValueTypes) [Closures V S] [Carried V α] (next : α → Plan V S) : S :=
  closure fun p ↦
    match Carried.recover p with
    | some a => next a
    | none => .mistyped

/-! ### Operators -/

mutual

/-- Transforms every value. -/
def map [Closures V S] [Carried V α] [Carried V β] (f : α → β) : Program V α S → Program V β S
  | done a => done (f a)
  | empty => empty
  | submit request => submit (request.mapResponse f)
  | sequence first steps =>
    sequence first (stepWith V (fun a : α ↦ .done (Carried.erase (f a))) :: steps)
  | concat parts => concat (mapParts f parts)

def mapParts [Closures V S] [Carried V α] [Carried V β] (f : α → β) :
    List (Program V α S) → List (Program V β S)
  | [] => []
  | p :: parts => map f p :: mapParts f parts

end

mutual

/-- Keeps the values that satisfy a predicate. -/
def filter [Closures V S] [Carried V α] (keep : α → Bool) : Program V α S → Program V α S
  | done a => if keep a then done a else empty
  | empty => empty
  | submit request => submit (request.filterResponse keep)
  | sequence first steps =>
    sequence first
      (stepWith V (fun a : α ↦ if keep a then .done (Carried.erase a) else .empty) :: steps)
  | concat parts => concat (filterParts keep parts)

def filterParts [Closures V S] [Carried V α] (keep : α → Bool) :
    List (Program V α S) → List (Program V α S)
  | [] => []
  | p :: parts => filter keep p :: filterParts keep parts

end

mutual

/-- Goes on, for every value in order, with the program made from it. -/
def flatMap [Closures V S] [Carried V α] [Carried V β] (f : α → Program V β S) :
    Program V α S → Program V β S
  | done a => f a
  | empty => empty
  | submit request =>
    sequence (.submit (request.mapResponse Carried.erase)) [stepWith V fun a ↦ (f a).erase]
  | sequence first steps => sequence first ((stepWith V fun a ↦ (f a).erase) :: steps)
  | concat parts => concat (flatMapParts f parts)

def flatMapParts [Closures V S] [Carried V α] [Carried V β] (f : α → Program V β S) :
    List (Program V α S) → List (Program V β S)
  | [] => []
  | p :: parts => flatMap f p :: flatMapParts f parts

end

/-! ### Parts -/

section Parts

variable [Closures V S] [Carried V α] [Carried V β]

omit [Closures V S] in
@[simp] theorem eraseParts_eq (parts : List (Program V α S)) :
    eraseParts parts = parts.map erase := by
  induction parts with
  | nil => rfl
  | cons p parts ih => simp [eraseParts, ih]

@[simp] theorem mapParts_eq (f : α → β) (parts : List (Program V α S)) :
    mapParts f parts = parts.map (map f) := by
  induction parts with
  | nil => rfl
  | cons p parts ih => simp [mapParts, ih]

@[simp] theorem filterParts_eq (keep : α → Bool) (parts : List (Program V α S)) :
    filterParts keep parts = parts.map (filter keep) := by
  induction parts with
  | nil => rfl
  | cons p parts ih => simp [filterParts, ih]

@[simp] theorem flatMapParts_eq (f : α → Program V β S) (parts : List (Program V α S)) :
    flatMapParts f parts = parts.map (flatMap f) := by
  induction parts with
  | nil => rfl
  | cons p parts ih => simp [flatMapParts, ih]

end Parts

/-- What holds of a concatenation if it holds of its parts holds of every program. -/
@[elab_as_elim, induction_eliminator]
theorem ind {motive : Program V α S → Prop} (done : ∀ a, motive (.done a))
    (empty : motive .empty) (submit : ∀ request, motive (.submit request))
    (sequence : ∀ first steps, motive (.sequence first steps))
    (concat : ∀ parts, (∀ p ∈ parts, motive p) → motive (.concat parts)) : ∀ p, motive p
  | .done a => done a
  | .empty => empty
  | .submit request => submit request
  | .sequence first steps => sequence first steps
  | .concat parts => concat parts fun p _ ↦ ind done empty submit sequence concat p

end Program

end Errand
