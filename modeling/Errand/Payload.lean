/-!
Values whose type is forgotten on the way and recovered at its end. A `Payload` holds a value of
one of the types that a `ValueTypes` lists, under the tag of its type, or another payload.
`Carried` says how a type goes into payloads: what was put in comes out again, and nothing else
does (`recover_erase`, `erase_of_recover`).
-/

set_option autoImplicit false

namespace Errand

/-- The types whose values may be carried. Different tags may name the same type, but a value put
in under one tag does not come out under another. -/
structure ValueTypes where
  Tag : Type
  Carrier : Tag → Type
  [tagEq : DecidableEq Tag]

attribute [instance] ValueTypes.tagEq

inductive Payload (V : ValueTypes) where
  | value (tag : V.Tag) (content : V.Carrier tag)
  | nested (inner : Payload V)

/-- A type whose values can be put into payloads and recovered from them. -/
class Carried (V : ValueTypes) (α : Type) where
  erase : α → Payload V
  recover : Payload V → Option α
  recover_erase : ∀ a, recover (erase a) = some a
  erase_of_recover : ∀ {p a}, recover p = some a → p = erase a

variable {V : ValueTypes}

/-- The content of a payload under the given tag. -/
def Payload.content? (tag : V.Tag) : Payload V → Option (V.Carrier tag)
  | value other content => if h : other = tag then some (h ▸ content) else none
  | nested _ => none

/-- The type listed under a tag. -/
@[reducible] def ValueTypes.carried (tag : V.Tag) : Carried V (V.Carrier tag) where
  erase := .value tag
  recover := Payload.content? tag
  recover_erase _ := by simp [Payload.content?]
  erase_of_recover {p a} h := by
    cases p with
    | nested inner => simp [Payload.content?] at h
    | value other content =>
      simp only [Payload.content?] at h
      split at h
      · rename_i e
        subst e
        simp only [Option.some.injEq] at h
        rw [h]
      · cases h

/-- Payloads are carried like any other value. -/
instance Payload.carried : Carried V (Payload V) where
  erase := .nested
  recover
    | .nested inner => some inner
    | .value _ _ => none
  recover_erase _ := rfl
  erase_of_recover {p a} h := by
    cases p with
    | nested inner => exact congrArg Payload.nested (Option.some.inj h)
    | value _ _ => cases h

namespace Payload

/-- Whether a payload holds a value of the type asked for. -/
def holds (α : Type) [Carried V α] (p : Payload V) : Bool := (Carried.recover (α := α) p).isSome

/-- The value of the type asked for, or the payload unchanged. -/
def downcast (α : Type) [Carried V α] (p : Payload V) : α ⊕ Payload V :=
  match Carried.recover (α := α) p with
  | some a => .inl a
  | none => .inr p

/-- A payload as a text, which does not show what it holds. -/
def text (_ : Payload V) : String := "Payload(..)"

end Payload

end Errand
