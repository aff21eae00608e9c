import Errand.Loopback
import Errand.Plan
import Mathlib

/-!
The recursive evaluation of a plan against a service, without flows, polls or stacks. A value is
handed on as soon as it appears, and whatever it is handed to runs to completion before the plan
that the value came from goes on.

The continuations of a plan may never come to an end, so `evaluate` is cut off where calls of
continuations nest deeper than a given depth. `Account.Below` compares accounts that may be cut off,
and `evaluate_mono` says that a greater depth only carries an account on.
-/

set_option autoImplicit false

namespace Errand

/-- What answers submissions: it may keep a state. -/
abbrev Answerer (V : ValueTypes) (ω : Type) := Submission V → ω → Answer (Payload V) × ω

/-- The answers that the responses of a service are. -/
def Service.answerer {V : ValueTypes} {ω : Type} (service : Service V ω) : Answerer V ω :=
  fun submission w ↦
    let (outcome, w) := service submission w
    ((submission.settle outcome).answer, w)

/-- What a run shows: the requests it dispatches, the values it yields and its errors. -/
inductive Milestone (V : ValueTypes) where
  | dispatched (submission : Submission V)
  | yielded (value : Payload V)
  | rejected (ticket : Ticket) (cause : Failure)
  /-- A value had another type than the program promised. -/
  | mistyped

/-- How many tickets have been used, and the state of the service. -/
structure Standing (ω : Type) where
  tickets : ℕ
  service : ω

/-- How an evaluation ends. -/
inductive Finish (ω : Type) where
  | completed (standing : Standing ω)
  | mistyped
  | cut

/-- What an evaluation shows, and how it ends. -/
structure Account (V : ValueTypes) (ω : Type) where
  trace : List (Milestone V)
  finish : Finish ω

/-- Something to be done where an evaluation stands. -/
abbrev Effect (V : ValueTypes) (ω : Type) := Standing ω → Account V ω

variable {V : ValueTypes} {S ω : Type}

namespace Account

/-- An account with something shown before it. -/
def after (shown : List (Milestone V)) (a : Account V ω) : Account V ω :=
  ⟨shown ++ a.trace, a.finish⟩

/-- Goes on if the evaluation was completed. -/
def andThen (a : Account V ω) (next : Effect V ω) : Account V ω :=
  match a.finish with
  | .completed standing => (next standing).after a.trace
  | .mistyped => a
  | .cut => a

end Account

namespace Effect

def nothing : Effect V ω := fun standing ↦ ⟨[], .completed standing⟩

def cut : Effect V ω := fun _ ↦ ⟨[], .cut⟩

/-- Yields a value of the whole plan. -/
def yields (value : Payload V) : Effect V ω := fun standing ↦
  ⟨[.yielded value], .completed standing⟩

end Effect

/-- Goes on with the answer to a submission: a success is handed on, and a rejection is shown. -/
def conclude (ticket : Ticket) (yield : Payload V → Effect V ω) :
    Answer (Payload V) → Effect V ω
  | .success value => yield value
  | .filtered => .nothing
  | .failure cause => fun standing ↦ ⟨[.rejected ticket cause], .completed standing⟩

section Evaluation

variable (answerer : Answerer V ω)

/-- Asks the service once. -/
def ask (request : Request (Payload V)) (yield : Payload V → Effect V ω) : Effect V ω :=
  fun standing ↦
    let submission : Submission V := ⟨⟨standing.tickets⟩, request⟩
    let (answer, service) := answerer submission standing.service
    (conclude submission.ticket yield answer ⟨standing.tickets + 1, service⟩).after
      [.dispatched submission]

/-- How a continuation is called with a value, its own values being handed on. -/
abbrev Calling (V : ValueTypes) (S ω : Type) :=
  S → (Payload V → Effect V ω) → Payload V → Effect V ω

/-- Hands a value to steps, the one added last standing in front, before it is handed on. -/
def through (call : Calling V S ω) (steps : List S) (yield : Payload V → Effect V ω) :
    Payload V → Effect V ω :=
  steps.foldl (fun next step ↦ call step next) yield

mutual

/-- Evaluates a plan, given how continuations are called. Every value is handed on as it appears. -/
def walk (call : Calling V S ω) : Plan V S → (Payload V → Effect V ω) → Effect V ω
  | .done value, yield => yield value
  | .empty, _ => .nothing
  | .submit request, yield => ask answerer request yield
  | .sequence first steps, yield => walk call first (through call steps yield)
  | .concat parts, yield => walkAll call parts yield
  | .mistyped, _ => fun _ ↦ ⟨[.mistyped], .mistyped⟩

def walkAll (call : Calling V S ω) : List (Plan V S) → (Payload V → Effect V ω) → Effect V ω
  | [], _ => .nothing
  | part :: parts, yield => fun standing ↦
    (walk call part yield standing).andThen (walkAll call parts yield)

end

/-- How continuations are called where their calls may nest so deep. -/
def calling [Resumes V S] : ℕ → Calling V S ω
  | 0 => fun _ _ _ ↦ .cut
  | depth + 1 => fun step yield value ↦ walk answerer (calling depth) (resume step value) yield

/-- Evaluates a plan, with calls of continuations nested no deeper than `depth`. -/
def evaluate [Resumes V S] (depth : ℕ) : Plan V S → (Payload V → Effect V ω) → Effect V ω :=
  walk answerer (calling answerer depth)

/-- The account of a whole plan, from the first ticket on. -/
def account [Resumes V S] (depth : ℕ) (plan : Plan V S) (w : ω) : Account V ω :=
  evaluate answerer depth plan .yields ⟨0, w⟩

end Evaluation

/-! ### Accounts that are cut off -/

namespace Account

/-- `a` is `b` or was cut off on the way to it. -/
def Below (a b : Account V ω) : Prop := a = b ∨ a.finish = .cut ∧ a.trace <+: b.trace

theorem Below.refl (a : Account V ω) : a.Below a := Or.inl rfl

theorem below_of_cut (b : Account V ω) : Below ⟨[], .cut⟩ b := Or.inr ⟨rfl, List.nil_prefix⟩

theorem Below.prefix_trace {a b : Account V ω} (hab : a.Below b) : a.trace <+: b.trace := by
  rcases hab with rfl | ⟨-, htrace⟩
  · exact List.prefix_rfl
  · exact htrace

theorem Below.trans {a b c : Account V ω} (hab : a.Below b) (hbc : b.Below c) : a.Below c := by
  rcases hab with rfl | ⟨hcut, htrace⟩
  · exact hbc
  · exact Or.inr ⟨hcut, htrace.trans hbc.prefix_trace⟩

theorem Below.after {a b : Account V ω} (hab : a.Below b) (shown : List (Milestone V)) :
    (a.after shown).Below (b.after shown) := by
  rcases hab with rfl | ⟨hcut, htrace⟩
  · exact Below.refl _
  · exact Or.inr ⟨hcut, (List.prefix_append_right_inj shown).mpr htrace⟩

theorem Below.andThen {a b : Account V ω} {next next' : Effect V ω} (hab : a.Below b)
    (hnext : ∀ standing, (next standing).Below (next' standing)) :
    (a.andThen next).Below (b.andThen next') := by
  rcases hab with rfl | ⟨hcut, htrace⟩
  · rcases hfinish : a.finish with standing | _ | _
    · simpa only [Account.andThen, hfinish] using (hnext standing).after a.trace
    · simpa only [Account.andThen, hfinish] using Below.refl a
    · simpa only [Account.andThen, hfinish] using Below.refl a
  · refine Or.inr ⟨by simp [Account.andThen, hcut], ?_⟩
    have hkept : b.trace <+: (b.andThen next').trace := by
      unfold Account.andThen
      split <;> simp [Account.after]
    simpa [Account.andThen, hcut] using htrace.trans hkept

end Account

/-- Whatever is done with a value is carried on by what is done in its place. -/
def Effect.Carries (yield yield' : Payload V → Effect V ω) : Prop :=
  ∀ value standing, (yield value standing).Below (yield' value standing)

theorem Effect.Carries.refl (yield : Payload V → Effect V ω) : Effect.Carries yield yield :=
  fun _ _ ↦ Account.Below.refl _

/-- Calls of continuations are carried on by others. -/
def Calling.Carries (call call' : Calling V S ω) : Prop :=
  ∀ step yield yield', Effect.Carries yield yield' →
    Effect.Carries (call step yield) (call' step yield')

section Monotone

variable {answerer : Answerer V ω} {call call' : Calling V S ω}
  {yield yield' : Payload V → Effect V ω}

theorem conclude_carries (ticket : Ticket) (answer : Answer (Payload V))
    (hyield : Effect.Carries yield yield') (standing : Standing ω) :
    (conclude ticket yield answer standing).Below (conclude ticket yield' answer standing) := by
  cases answer with
  | success value => exact hyield value standing
  | filtered => exact Account.Below.refl _
  | failure cause => exact Account.Below.refl _

theorem ask_carries (request : Request (Payload V)) (hyield : Effect.Carries yield yield')
    (standing : Standing ω) :
    (ask answerer request yield standing).Below (ask answerer request yield' standing) :=
  (conclude_carries _ _ hyield _).after _

theorem through_carries (hcall : call.Carries call') (steps : List S)
    (hyield : Effect.Carries yield yield') :
    Effect.Carries (through call steps yield) (through call' steps yield') := by
  induction steps generalizing yield yield' with
  | nil => exact hyield
  | cons step steps ih => exact ih (hcall step yield yield' hyield)

mutual

theorem walk_carries (hcall : call.Carries call') : ∀ (plan : Plan V S)
    {yield yield' : Payload V → Effect V ω}, Effect.Carries yield yield' → ∀ standing,
      (walk answerer call plan yield standing).Below (walk answerer call' plan yield' standing)
  | .done value, _, _, hyield, standing => hyield value standing
  | .empty, _, _, _, _ => Account.Below.refl _
  | .submit request, _, _, hyield, standing => ask_carries request hyield standing
  | .sequence first steps, _, _, hyield, standing =>
    walk_carries hcall first (through_carries hcall steps hyield) standing
  | .concat parts, _, _, hyield, standing => walkAll_carries hcall parts hyield standing
  | .mistyped, _, _, _, _ => Account.Below.refl _

theorem walkAll_carries (hcall : call.Carries call') : ∀ (parts : List (Plan V S))
    {yield yield' : Payload V → Effect V ω}, Effect.Carries yield yield' → ∀ standing,
      (walkAll answerer call parts yield standing).Below
        (walkAll answerer call' parts yield' standing)
  | [], _, _, _, _ => Account.Below.refl _
  | part :: parts, _, _, hyield, standing =>
    (walk_carries hcall part hyield standing).andThen (walkAll_carries hcall parts hyield)

end

/-- Parts that are carried on by others. -/
theorem walkAll_below {ι : Type} (left right : ι → Plan V S) {parts : List ι}
    (hparts : ∀ part ∈ parts, ∀ standing, (walk answerer call (left part) yield standing).Below
      (walk answerer call' (right part) yield' standing)) (standing : Standing ω) :
    (walkAll answerer call (parts.map left) yield standing).Below
      (walkAll answerer call' (parts.map right) yield' standing) := by
  induction parts generalizing standing with
  | nil => exact Account.Below.refl _
  | cons part parts ih =>
    rw [List.forall_mem_cons] at hparts
    exact (hparts.1 standing).andThen (ih hparts.2)

theorem calling_carries [Resumes V S] {depth depth' : ℕ} (hdepth : depth ≤ depth') :
    (calling answerer depth : Calling V S ω).Carries (calling answerer depth') := by
  induction depth generalizing depth' with
  | zero => exact fun _ _ _ _ _ _ ↦ Account.below_of_cut _
  | succ depth ih =>
    obtain ⟨depth', rfl⟩ := Nat.exists_eq_succ_of_ne_zero (Nat.ne_zero_of_lt hdepth)
    intro step yield yield' hyield value standing
    exact walk_carries (ih (Nat.succ_le_succ_iff.mp hdepth)) (resume step value) hyield standing

/-- A greater depth only carries an evaluation on. -/
theorem evaluate_mono [Resumes V S] {depth depth' : ℕ} (hdepth : depth ≤ depth') (plan : Plan V S)
    (hyield : Effect.Carries yield yield') (standing : Standing ω) :
    (evaluate answerer depth plan yield standing).Below
      (evaluate answerer depth' plan yield' standing) :=
  walk_carries (calling_carries hdepth) plan hyield standing

end Monotone

end Errand
