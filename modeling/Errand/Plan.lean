import Errand.Answer

/-!
Plans: what remains to be done, with the types of values forgotten. A plan is a finite tree whose
continuations are named by an arbitrary type `S`; `Resumes` says which plan a name continues with
for a value. So a plan with its continuations may go on for ever. `Step` is the type of
continuations that are functions into plans of the same kind, and `Erased` the plans made with
them: those are well-founded trees. `Closures` says that every function has a name among the
continuations, which is all that building programs needs.
-/

set_option autoImplicit false

namespace Errand

inductive Plan (V : ValueTypes) (S : Type) where
  /-- Yields a value. -/
  | done (value : Payload V)
  | empty
  /-- Submits a request and yields the value of its answer. -/
  | submit (request : Request (Payload V))
  /-- Passes every value of `first` through the steps, of which the one added last stands in
  front. -/
  | sequence (first : Plan V S) (steps : List S)
  /-- Does every part in order. -/
  | concat (parts : List (Plan V S))
  /-- Stands where a value turned out to be of another type than the program promised. -/
  | mistyped

/-- How names of continuations are understood. -/
class Resumes (V : ValueTypes) (S : Type) where
  resume : S → Payload V → Plan V S

export Resumes (resume)

/-- Continuations among which every function has a name. -/
class Closures (V : ValueTypes) (S : Type) extends Resumes V S where
  closure : (Payload V → Plan V S) → S
  resume_closure : ∀ run value, resume (closure run) value = run value

export Closures (closure)

attribute [simp] Closures.resume_closure

inductive Step (V : ValueTypes) where
  | mk (run : Payload V → Plan V (Step V))

abbrev Erased (V : ValueTypes) := Plan V (Step V)

instance (V : ValueTypes) : Closures V (Step V) where
  resume
    | .mk run => run
  closure := .mk
  resume_closure _ _ := rfl

end Errand
