import Errand.Run

/-!
Runs of well-founded plans cannot make moves for ever without waiting or yielding. `Work.Before`
is what a move does to the work of a run: it takes the topmost piece away and puts in its place
the parts it consists of, or what a step continues with. Over plans whose continuations are
functions this cannot go on for ever (`terminating_step`), whatever values the answers bring.

The main statements are `before_of_again`, that every move followed by another goes down in this
order, and `before_of_error`, that every error of a run leaves it finished or further down.
-/

set_option autoImplicit false

namespace Errand

variable {V : ValueTypes} {S σ ε : Type}

/-- A piece of work: a task, or an answer to be awaited. -/
inductive Work (V : ValueTypes) (S : Type) where
  | task (plan : Plan V S) (chain : List S)
  | answer (chain : List S)

namespace Work

/-- The work after a value has been handed to the first step of its chain. -/
def delivered [Resumes V S] (value : Payload V) (rest : List (Work V S)) :
    List S → List (Work V S)
  | [] => rest
  | step :: chain => task (resume step value) chain :: rest

/-- `Before new old`: one move turns the old work into the new. -/
inductive Before [Resumes V S] : List (Work V S) → List (Work V S) → Prop where
  | done {value chain rest} : Before (delivered value rest chain) (task (.done value) chain :: rest)
  | empty {chain rest} : Before rest (task .empty chain :: rest)
  | submit {request chain rest} :
    Before (answer chain :: rest) (task (.submit request) chain :: rest)
  | sequence {first steps chain rest} :
    Before (task first (steps.reverse ++ chain) :: rest)
      (task (.sequence first steps) chain :: rest)
  | concat {parts chain rest} :
    Before (parts.map (task · chain) ++ rest) (task (.concat parts) chain :: rest)
  | answered {value chain rest} : Before (delivered value rest chain) (answer chain :: rest)
  | unanswered {chain rest} : Before rest (answer chain :: rest)

end Work

/-- Continuations that no run can follow for ever. -/
class Terminating (V : ValueTypes) (S : Type) [Resumes V S] : Prop where
  wf : WellFounded (Work.Before (V := V) (S := S))

/-! ### Functions as continuations -/

section Functions

open Work

/-- A chain is safe if handing it a value adds only finite work. -/
private def SafeChain (chain : List (Step V)) : Prop :=
  ∀ (value : Payload V) (rest : List (Work V (Step V))),
    Acc Before rest → Acc Before (delivered value rest chain)

/-- A plan is finite if doing it before a safe chain adds only finite work. -/
private def FinitePlan (plan : Erased V) : Prop :=
  ∀ chain, SafeChain chain → ∀ rest : List (Work V (Step V)),
    Acc Before rest → Acc Before (task plan chain :: rest)

private theorem safe_nil : SafeChain ([] : List (Step V)) := fun _ _ h ↦ h

private theorem safe_cons {step : Step V} {chain : List (Step V)}
    (hs : ∀ value, FinitePlan (resume step value)) (hc : SafeChain chain) :
    SafeChain (step :: chain) :=
  fun value rest h ↦ hs value chain hc rest h

private theorem acc_answer {chain : List (Step V)} {rest : List (Work V (Step V))}
    (hc : SafeChain chain) (h : Acc Before rest) : Acc Before (answer chain :: rest) := by
  constructor
  intro new before
  cases before with
  | answered => exact hc _ _ h
  | unanswered => exact h

mutual

private theorem finite_plan : ∀ plan : Erased V, FinitePlan plan
  | .done value => fun chain hc rest h ↦ by
    constructor
    intro new before
    cases before
    exact hc _ _ h
  | .empty => fun chain _ rest h ↦ by
    constructor
    intro new before
    cases before
    exact h
  | .submit request => fun chain hc rest h ↦ by
    constructor
    intro new before
    cases before
    exact acc_answer hc h
  | .sequence first steps => fun chain hc rest h ↦ by
    constructor
    intro new before
    cases before
    exact finite_plan first _ (safe_steps steps chain hc) rest h
  | .concat parts => fun chain hc rest h ↦ by
    constructor
    intro new before
    cases before
    exact acc_parts parts chain hc rest h
  | .mistyped => fun chain _ rest _ ↦ by
    constructor
    intro new before
    cases before

private theorem finite_step : ∀ (step : Step V) (value : Payload V), FinitePlan (resume step value)
  | .mk run => fun value ↦ finite_plan (run value)

private theorem safe_steps : ∀ (steps : List (Step V)) (chain : List (Step V)), SafeChain chain →
    SafeChain (steps.reverse ++ chain)
  | [] => fun _ hc ↦ hc
  | step :: steps => fun chain hc ↦ by
    rw [List.reverse_cons, List.append_assoc]
    exact safe_steps steps _ (safe_cons (finite_step step) hc)

private theorem acc_parts : ∀ (parts : List (Erased V)) (chain : List (Step V)), SafeChain chain →
    ∀ rest, Acc Before rest → Acc Before (parts.map (task · chain) ++ rest)
  | [] => fun _ _ _ h ↦ h
  | part :: parts => fun chain hc rest h ↦
    finite_plan part chain hc _ (acc_parts parts chain hc rest h)

end

private theorem safe_chain (chain : List (Step V)) : SafeChain chain := by
  induction chain with
  | nil => exact safe_nil
  | cons step chain ih => exact safe_cons (finite_step step) ih

instance terminating_step : Terminating V (Step V) where
  wf := by
    constructor
    intro work
    induction work with
    | nil =>
      constructor
      intro new before
      cases before
    | cons piece rest ih =>
      cases piece with
      | task plan chain => exact finite_plan plan chain (safe_chain chain) rest ih
      | answer chain => exact acc_answer (safe_chain chain) ih

end Functions

/-! ### Runs go down -/

namespace Run

/-- The work of a run, topmost piece first. -/
def work (run : Run V S) : List (Work V S) :=
  (run.flight.map fun flight ↦ Work.answer flight.chain).toList
    ++ run.tasks.map fun task ↦ Work.task task.plan task.chain

theorem deliver_again [Resumes V S] {value : Payload V} {chain : List S} {run run' : Run V S}
    (hf : run.flight = none) (h : deliver (ε := ε) value chain run = (.again, run')) :
    run'.work = Work.delivered value run.work chain := by
  cases chain with
  | nil => simp [deliver] at h
  | cons step chain =>
    simp only [deliver, Prod.mk.injEq, true_and] at h
    subst h
    simp [work, hf, Work.delivered]

theorem land_again [Resumes V S] {flight : Flight V S} {run run' : Run V S}
    {landing : Landing V S ε} (hf : run.flight = some flight)
    (h : land flight run landing = (.again, run')) : Work.Before run'.work run.work := by
  have hw : run.work = .answer flight.chain :: { run with flight := none : Run V S }.work := by
    simp [work, hf]
  cases landing with
  | flying flight' => simp [land] at h
  | failed error => simp [land] at h
  | landed answer =>
    cases answer with
    | success value =>
      rw [hw, deliver_again rfl h]
      exact .answered
    | filtered =>
      simp only [land, Prod.mk.injEq, true_and] at h
      subst h
      rw [hw]
      exact .unanswered
    | failure cause => simp [land] at h

theorem undertake_again [Resumes V S] {run run' : Run V S} {plan : Plan V S} {chain : List S}
    {rest : List (Task V S)} (hf : run.flight = none) (ht : run.tasks = ⟨plan, chain⟩ :: rest)
    (h : undertake (ε := ε) run chain rest plan = (.again, run')) :
    Work.Before run'.work run.work := by
  have hw : run.work = .task plan chain :: { run with tasks := rest : Run V S }.work := by
    simp [work, hf, ht]
  have hr : { run with tasks := rest : Run V S }.work
      = rest.map fun task ↦ Work.task task.plan task.chain := by simp [work, hf]
  rw [hw]
  cases plan with
  | done value =>
    have hf' : { run with tasks := rest : Run V S }.flight = none := hf
    rw [deliver_again hf' h]
    exact .done
  | empty =>
    simp only [undertake, Prod.mk.injEq, true_and] at h
    subst h
    exact .empty
  | submit request =>
    simp only [undertake, Prod.mk.injEq, true_and] at h
    subst h
    rw [hr]
    exact .submit
  | sequence first steps =>
    simp only [undertake, Prod.mk.injEq, true_and] at h
    subst h
    rw [hr, work, hf]
    exact .sequence
  | concat parts =>
    simp only [undertake, Prod.mk.injEq, true_and] at h
    subst h
    have : ∀ flight : Option (Flight V S), flight = none →
        ({ run with tasks := parts.map (fun part ↦ ⟨part, chain⟩) ++ rest : Run V S }).work
          = parts.map (Work.task · chain) ++ rest.map fun task ↦ Work.task task.plan task.chain :=
      fun _ _ ↦ by simp [work, hf, Function.comp_def]
    rw [hr, this none rfl]
    exact .concat
  | mistyped => simp [undertake] at h

theorem not_finished_of_again [Resumes V S] {flow : Flow V σ ε} {run run' : Run V S} {s s' : σ}
    (h : run.step flow s = ((.again, run'), s')) : run.finished = false := by
  cases hf : run.finished with
  | false => rfl
  | true => simp [step, hf] at h

/-- A move that is followed by another goes down. -/
theorem before_of_again [Resumes V S] {flow : Flow V σ ε} {run run' : Run V S} {s s' : σ}
    (h : run.step flow s = ((.again, run'), s')) : Work.Before run'.work run.work := by
  have hn := not_finished_of_again h
  simp only [step, hn, Bool.false_eq_true, if_false] at h
  split at h
  · rename_i flight hf
    simp only [Prod.mk.injEq] at h
    exact land_again hf h.1
  · rename_i hf ht
    simp only [Prod.mk.injEq] at h
    exact undertake_again hf ht h.1
  · unfold close at h
    split at h <;> simp at h

/-- A move that is followed by another does not finish a run. -/
theorem finished_of_again [Resumes V S] {flow : Flow V σ ε} {run run' : Run V S} {s s' : σ}
    (h : run.step flow s = ((.again, run'), s')) : run'.finished = run.finished := by
  have hn := not_finished_of_again h
  have delivered : ∀ {value : Payload V} {chain : List S} {run run' : Run V S},
      deliver (ε := ε) value chain run = (.again, run') → run'.finished = run.finished := by
    intro value chain run run' h
    cases chain with
    | nil => simp [deliver] at h
    | cons step chain =>
      simp only [deliver, Prod.mk.injEq, true_and] at h
      exact h ▸ rfl
  simp only [step, hn, Bool.false_eq_true, if_false] at h
  split at h
  · simp only [Prod.mk.injEq] at h
    obtain ⟨h, -⟩ := h
    unfold land at h
    split at h <;> first
      | exact (delivered h).trans rfl
      | (simp only [Prod.mk.injEq, true_and] at h; exact h ▸ rfl)
      | simp at h
  · simp only [Prod.mk.injEq] at h
    obtain ⟨h, -⟩ := h
    unfold undertake at h
    split at h <;> first
      | exact (delivered h).trans rfl
      | (simp only [Prod.mk.injEq, true_and] at h; exact h ▸ rfl)
      | simp at h
  · unfold close at h
    split at h <;> simp at h

/-- An error leaves a run finished or further down. -/
theorem before_of_error [Resumes V S] {flow : Flow V σ ε} {run run' : Run V S} {s s' : σ}
    {e : RunError ε} (h : run.step flow s = ((.item (some (.error e)), run'), s')) :
    run.finished = false ∧ (run'.finished = true ∨
      run'.finished = run.finished ∧ Work.Before run'.work run.work) := by
  have hn : run.finished = false := by
    cases hf : run.finished with
    | false => rfl
    | true => simp [step, hf] at h
  refine ⟨hn, ?_⟩
  have undelivered : ∀ {value : Payload V} {chain : List S} {a b : Run V S},
      deliver (ε := ε) value chain a ≠ (.item (some (.error e)), b) := by
    intro value chain a b
    cases chain <;> simp [deliver]
  simp only [step, hn, Bool.false_eq_true, if_false] at h
  split at h
  · rename_i flight hf
    simp only [Prod.mk.injEq] at h
    obtain ⟨h, -⟩ := h
    unfold land at h
    split at h
    · simp at h
    · simp only [Prod.mk.injEq] at h
      exact .inl (h.2 ▸ rfl)
    · exact absurd h undelivered
    · simp at h
    · simp only [Prod.mk.injEq] at h
      refine .inr ⟨h.2 ▸ rfl, ?_⟩
      rw [← h.2]
      have hw : run.work = .answer flight.chain :: { run with flight := none : Run V S }.work := by
        simp [work, hf]
      rw [hw]
      exact .unanswered
  · simp only [Prod.mk.injEq] at h
    obtain ⟨h, -⟩ := h
    unfold undertake at h
    split at h
    · exact absurd h undelivered
    all_goals first
      | (simp only [Prod.mk.injEq] at h; exact .inl (h.2 ▸ rfl))
      | simp at h
  · unfold close at h
    split at h <;> first
      | (simp only [Prod.mk.injEq] at h; exact .inl (h.1.2 ▸ rfl))
      | simp at h

end Run

end Errand
