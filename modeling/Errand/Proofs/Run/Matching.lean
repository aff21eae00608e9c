import Errand.Proofs.Run.History

/-!
Runs of plans that differ in how they are put together. What counts are the leaves of a plan, its
parts that are neither concatenations nor empty, in order: a run takes concatenations apart without
a call on its flow, and drops what is empty (`Course.settles`).

Two plans match if they have the same leaves, but for continuations that go on alike
(`Plan.Matches`, `GoAlike`). Continuations may make plans for ever, so going on alike is the largest
such relation. A run of one plan is kept up with by a run of the other, which may take more moves
or fewer (`Course.InStep.next`), and so the two show the same calls and returns, over every flow
(`Plan.Matches.indistinct`).
-/

set_option autoImplicit false

namespace Errand

variable {V : ValueTypes} {S σ ε : Type}

/-! ### Leaves -/

mutual

/-- The parts of a plan that are neither concatenations nor empty, in order. -/
def Plan.leaves : Plan V S → List (Plan V S)
  | .done value => [.done value]
  | .empty => []
  | .submit request => [.submit request]
  | .sequence first steps => [.sequence first steps]
  | .concat parts => Plan.leavesOf parts
  | .mistyped => [.mistyped]

def Plan.leavesOf : List (Plan V S) → List (Plan V S)
  | [] => []
  | part :: parts => part.leaves ++ Plan.leavesOf parts

end

@[simp] theorem Plan.leavesOf_eq (parts : List (Plan V S)) :
    Plan.leavesOf parts = parts.flatMap Plan.leaves := by
  induction parts with
  | nil => rfl
  | cons part parts ih => simp [Plan.leavesOf, ih]

/-! ### Continuations that go on alike -/

/-- Leaves that are the same but for related continuations. -/
inductive Plan.LeafMatches (R : S → S → Prop) : Plan V S → Plan V S → Prop
  | done (value : Payload V) : LeafMatches R (.done value) (.done value)
  | submit (request : Request (Payload V)) : LeafMatches R (.submit request) (.submit request)
  | sequence (first : Plan V S) {steps steps' : List S} (hsteps : List.Forall₂ R steps steps') :
    LeafMatches R (.sequence first steps) (.sequence first steps')
  | mistyped : LeafMatches R .mistyped .mistyped

/-- Plans whose leaves are the same but for related continuations. -/
def Plan.MatchesBy (R : S → S → Prop) (p q : Plan V S) : Prop :=
  List.Forall₂ (Plan.LeafMatches R) p.leaves q.leaves

/-- Continuations that make matching plans of every value, whose continuations do so again. -/
def GoAlike (V : ValueTypes) [Resumes V S] (step step' : S) : Prop :=
  ∃ R : S → S → Prop, (∀ s s', R s s' → ∀ value : Payload V,
    Plan.MatchesBy R (resume s value) (resume s' value)) ∧ R step step'

/-- Plans whose leaves are the same but for continuations that go on alike. -/
def Plan.Matches [Resumes V S] : Plan V S → Plan V S → Prop := Plan.MatchesBy (GoAlike V)

section Relations

variable {R R' : S → S → Prop} {p q r : Plan V S}

theorem forall₂_comp {A : Type} {P Q T : A → A → Prop} (h : ∀ a b c, P a b → Q b c → T a c) :
    ∀ {l l' l'' : List A}, List.Forall₂ P l l' → List.Forall₂ Q l' l'' → List.Forall₂ T l l''
  | _, _, _, .nil, .nil => .nil
  | _, _, _, .cons ha hl, .cons hb hl' => .cons (h _ _ _ ha hb) (forall₂_comp h hl hl')

theorem Plan.LeafMatches.imp (himp : ∀ s s', R s s' → R' s s') (hpq : Plan.LeafMatches R p q) :
    Plan.LeafMatches R' p q := by
  cases hpq with
  | done value => exact .done value
  | submit request => exact .submit request
  | sequence first hsteps => exact .sequence first (hsteps.imp himp)
  | mistyped => exact .mistyped

theorem Plan.MatchesBy.imp (himp : ∀ s s', R s s' → R' s s') (hpq : Plan.MatchesBy R p q) :
    Plan.MatchesBy R' p q :=
  List.Forall₂.imp (fun _ _ ↦ .imp himp) hpq

theorem Plan.MatchesBy.flip (hpq : Plan.MatchesBy R p q) : Plan.MatchesBy (flip R) q p := by
  refine List.Forall₂.flip (List.Forall₂.imp (fun a b hab ↦ ?_) hpq)
  cases hab with
  | done value => exact .done value
  | submit request => exact .submit request
  | sequence first hsteps => exact .sequence first hsteps.flip
  | mistyped => exact .mistyped

theorem Plan.MatchesBy.comp (hpq : Plan.MatchesBy R p q) (hqr : Plan.MatchesBy R' q r) :
    Plan.MatchesBy (Relation.Comp R R') p r := by
  refine forall₂_comp (fun a b c hab hbc ↦ ?_) hpq hqr
  cases hab with
  | done value => cases hbc; exact .done value
  | submit request => cases hbc; exact .submit request
  | sequence first hsteps =>
    cases hbc with
    | sequence _ hsteps' =>
      exact .sequence first (forall₂_comp (fun _ b _ hab hbc ↦ ⟨b, hab, hbc⟩) hsteps hsteps')
  | mistyped => cases hbc; exact .mistyped

mutual

theorem Plan.matchesBy_refl (hR : ∀ s, R s s) : ∀ p : Plan V S, Plan.MatchesBy R p p
  | .done value => .cons (.done value) .nil
  | .empty => .nil
  | .submit request => .cons (.submit request) .nil
  | .sequence first _ => .cons (.sequence first (List.forall₂_same.mpr fun s _ ↦ hR s)) .nil
  | .concat parts => by
    rw [Plan.MatchesBy, Plan.leaves]
    exact Plan.matchesBy_refl_parts hR parts
  | .mistyped => .cons .mistyped .nil

theorem Plan.matchesBy_refl_parts (hR : ∀ s, R s s) : ∀ parts : List (Plan V S),
    List.Forall₂ (Plan.LeafMatches R) (Plan.leavesOf parts) (Plan.leavesOf parts)
  | [] => .nil
  | part :: parts => by
    rw [Plan.leavesOf]
    exact List.rel_append (Plan.matchesBy_refl hR part) (Plan.matchesBy_refl_parts hR parts)

end

end Relations

namespace GoAlike

variable [Resumes V S] {step step' step'' : S}

/-- Going on alike is the largest of the relations it is made of. -/
theorem resume (halike : GoAlike V step step') (value : Payload V) :
    (Errand.resume step value : Plan V S).Matches (Errand.resume step' value) := by
  obtain ⟨R, hR, hstep⟩ := halike
  exact (hR step step' hstep value).imp fun s s' hs ↦ ⟨R, hR, hs⟩

theorem of_resume (hresume : ∀ value : Payload V,
    (Errand.resume step value : Plan V S).Matches (Errand.resume step' value)) :
    GoAlike V step step' := by
  refine ⟨fun s s' ↦ GoAlike V s s' ∨ s = step ∧ s' = step', ?_, Or.inr ⟨rfl, rfl⟩⟩
  rintro s s' (hs | ⟨rfl, rfl⟩) value
  · exact (hs.resume value).imp fun _ _ ↦ Or.inl
  · exact (hresume value).imp fun _ _ ↦ Or.inl

theorem refl (step : S) : GoAlike V step step :=
  ⟨Eq, fun _ _ hs _ ↦ hs ▸ Plan.matchesBy_refl (fun _ ↦ rfl) _, rfl⟩

theorem symm (halike : GoAlike V step step') : GoAlike V step' step :=
  ⟨flip (GoAlike V), fun _ _ hs value ↦ (hs.resume value).flip, halike⟩

theorem trans (halike : GoAlike V step step') (halike' : GoAlike V step' step'') :
    GoAlike V step step'' :=
  ⟨Relation.Comp (GoAlike V) (GoAlike V),
    fun _ _ ⟨_, hs, hs'⟩ value ↦ Plan.MatchesBy.comp (hs.resume value) (hs'.resume value),
    ⟨step', halike, halike'⟩⟩

end GoAlike

/-! ### What shows of a run -/

/-- The calls made on a flow and the returns of polls, in order: all that shows of a run from
without. -/
def outward (history : List (Happening V S ε)) :
    List (FlowCall V ε ⊕ Poll (Option (Item V ε))) :=
  history.filterMap fun
    | .call call => some (.inl call)
    | .resumed _ _ => none
    | .returned outcome => some (.inr outcome)

/-- Entering what shows the same into histories that show the same. -/
theorem outward_append_congr {h h' news news' : List (Happening V S ε)}
    (hold : outward h = outward h') (hnews : outward news = outward news') :
    outward (h ++ news) = outward (h' ++ news') := by
  rw [outward, List.filterMap_append, ← outward, ← outward, hold, hnews, outward, outward, outward,
    List.filterMap_append]

/-- Two runs have left the flow in the same state and show the same. -/
def Course.ShownAlike (c c' : Course V S σ ε) : Prop :=
  c.state = c'.state ∧ outward c.history = outward c'.history

/-- The runs of two plans show the same, over every flow and from every state of it on: whatever
the one shows after some moves the other shows after some moves. -/
def Plan.Indistinct [Resumes V S] (p q : Plan V S) : Prop :=
  ∀ {σ ε : Type} (flow : Flow V σ ε) (s : σ),
    (∀ n, ∃ m, (Course.after flow p s n).ShownAlike (Course.after flow q s m)) ∧
      ∀ m, ∃ n, (Course.after flow p s n).ShownAlike (Course.after flow q s m)

/-! ### Runs come to their leaves -/

/-- The leaves of tasks, with the chains their values pass through. -/
def Run.leaves (tasks : List (Task V S)) : List (Task V S) :=
  tasks.flatMap fun task ↦ task.plan.leaves.map (⟨·, task.chain⟩)

theorem Run.leaves_cons (plan : Plan V S) (chain : List S) (rest : List (Task V S)) :
    Run.leaves (⟨plan, chain⟩ :: rest) = plan.leaves.map (⟨·, chain⟩) ++ Run.leaves rest := by
  simp [Run.leaves]

theorem Run.leaves_concat (parts : List (Plan V S)) (chain : List S) (rest : List (Task V S)) :
    Run.leaves (parts.map (fun part ↦ ⟨part, chain⟩) ++ rest) =
      Run.leaves (⟨.concat parts, chain⟩ :: rest) := by
  simp [Run.leaves, Plan.leaves, List.flatMap_map, List.map_flatMap]

namespace Course

variable [Resumes V S]

/-- Without a call on its flow, a run of some tasks comes to the first of their leaves, or finds
that there is none. -/
def Settles (flow : Flow V σ ε) (tasks : List (Task V S)) : Prop :=
  ∀ k s h, ∃ n tasks', (next flow)^[n] ⟨⟨tasks, none, k, false⟩, s, h⟩ =
      ⟨⟨tasks', none, k, false⟩, s, h⟩ ∧
    Run.leaves tasks' = Run.leaves tasks ∧ ∀ task ∈ tasks'.head?, task.plan.leaves = [task.plan]

variable {flow : Flow V σ ε} {tasks tasks' rest : List (Task V S)}

theorem Settles.of_leaf {plan : Plan V S} (hplan : plan.leaves = [plan]) (chain : List S) :
    Settles flow (⟨plan, chain⟩ :: rest) :=
  fun _ _ _ ↦ ⟨0, _, rfl, rfl, by simpa using hplan⟩

theorem Settles.of_next (hsettles : Settles flow tasks')
    (hleaves : Run.leaves tasks' = Run.leaves tasks)
    (hnext : ∀ k s h, next flow ⟨⟨tasks, none, k, false⟩, s, h⟩ =
      ⟨⟨tasks', none, k, false⟩, s, h⟩) : Settles flow tasks := by
  intro k s h
  obtain ⟨n, tasks'', hmoves, hleaves', hhead⟩ := hsettles k s h
  refine ⟨n + 1, tasks'', ?_, hleaves'.trans hleaves, hhead⟩
  rw [Function.iterate_succ_apply, hnext, hmoves]

mutual

theorem settles_cons : ∀ (plan : Plan V S) (chain : List S) {rest : List (Task V S)},
    Settles flow rest → Settles flow (⟨plan, chain⟩ :: rest)
  | .done _, chain, _, _ => .of_leaf rfl chain
  | .empty, chain, rest, hrest =>
    hrest.of_next (Run.leaves_cons .empty chain rest) fun _ _ _ ↦ next_empty
  | .submit _, chain, _, _ => .of_leaf rfl chain
  | .sequence _ _, chain, _, _ => .of_leaf rfl chain
  | .concat parts, chain, rest, hrest =>
    (settles_parts parts chain hrest).of_next (Run.leaves_concat parts chain rest)
      fun _ _ _ ↦ next_concat
  | .mistyped, chain, _, _ => .of_leaf rfl chain

theorem settles_parts : ∀ (parts : List (Plan V S)) (chain : List S) {rest : List (Task V S)},
    Settles flow rest → Settles flow (parts.map (fun part ↦ ⟨part, chain⟩) ++ rest)
  | [], _, _, hrest => hrest
  | part :: parts, chain, _, hrest => settles_cons part chain (settles_parts parts chain hrest)

end

/-- Concatenations are taken apart without a call on the flow. -/
theorem settles (flow : Flow V σ ε) (tasks : List (Task V S)) : Settles flow tasks := by
  induction tasks with
  | nil => exact fun _ _ _ ↦ ⟨0, [], rfl, rfl, by simp⟩
  | cons task rest ih => exact settles_cons task.plan task.chain ih

end Course

/-! ### Runs in step -/

section InStep

variable [Resumes V S]

structure Task.Matches (task task' : Task V S) : Prop where
  plan : Plan.LeafMatches (GoAlike V) task.plan task'.plan
  chain : List.Forall₂ (GoAlike V) task.chain task'.chain

structure Flight.Matches (flight flight' : Flight V S) : Prop where
  ticket : flight.ticket = flight'.ticket
  stage : flight.stage = flight'.stage
  chain : List.Forall₂ (GoAlike V) flight.chain flight'.chain

/-- Two runs stand at the same leaf, and have the same submission in flight. -/
structure Run.InStep (run run' : Run V S) : Prop where
  tasks : List.Forall₂ Task.Matches (Run.leaves run.tasks) (Run.leaves run'.tasks)
  flight : Option.Rel Flight.Matches run.flight run'.flight
  submitted : run.submitted = run'.submitted
  finished : run.finished = run'.finished

/-- Two runs are in step and show the same. -/
structure Course.InStep (c c' : Course V S σ ε) : Prop where
  run : c.run.InStep c'.run
  shown : c.ShownAlike c'

theorem Task.matches_of_plans {p q : Plan V S} (hpq : p.Matches q) {chain chain' : List S}
    (hchain : List.Forall₂ (GoAlike V) chain chain') :
    List.Forall₂ Task.Matches (p.leaves.map (⟨·, chain⟩)) (q.leaves.map (⟨·, chain'⟩)) := by
  rw [List.forall₂_map_left_iff, List.forall₂_map_right_iff]
  exact List.Forall₂.imp (fun _ _ hleaf ↦ ⟨hleaf, hchain⟩) hpq

namespace Course

namespace InStep

variable {flow : Flow V σ ε} {c c' : Course V S σ ε} {rest rest' : List (Task V S)}
  {chain chain' : List S} {k : ℕ} {s : σ} {h h' : List (Happening V S ε)}

theorem returning (hstep : c.InStep c') (outcome : Poll (Option (Item V ε))) :
    (c.returning outcome).InStep (c'.returning outcome) :=
  ⟨hstep.run, hstep.shown.1, outward_append_congr hstep.shown.2 rfl⟩

theorem called (hstep : c.InStep c') (call : FlowCall V ε) (s : σ) :
    (c.called call s).InStep (c'.called call s) :=
  ⟨hstep.run, rfl, outward_append_congr hstep.shown.2 rfl⟩

theorem broken (hstep : c.InStep c') (error : RunError ε) :
    (c.broken error).InStep (c'.broken error) := by
  have hover : InStep { c with run := c.run.finish } { c' with run := c'.run.finish } :=
    ⟨⟨.nil, .none, hstep.run.submitted, rfl⟩, hstep.shown⟩
  exact hover.returning _

theorem handed (hstep : c.InStep c') (value : Payload V)
    (hchain : List.Forall₂ (GoAlike V) chain chain') :
    (c.handed value chain).InStep (c'.handed value chain') := by
  cases hchain with
  | nil => exact hstep.returning _
  | cons hgo hchain =>
    refine ⟨⟨?_, hstep.run.flight, hstep.run.submitted, hstep.run.finished⟩, hstep.shown.1,
      outward_append_congr hstep.shown.2 rfl⟩
    show List.Forall₂ _ (Run.leaves (_ :: _)) (Run.leaves (_ :: _))
    rw [Run.leaves_cons, Run.leaves_cons]
    exact List.rel_append (Task.matches_of_plans (hgo.resume value) hchain) hstep.run.tasks

theorem landed (hstep : c.InStep c') (ticket : Ticket) (answer : Answer (Payload V))
    (hchain : List.Forall₂ (GoAlike V) chain chain') :
    (c.landed ticket chain answer).InStep (c'.landed ticket chain' answer) := by
  cases answer with
  | success value => exact hstep.handed value hchain
  | filtered => exact hstep
  | failure cause => exact hstep.returning _

section Driving

variable {ticket : Ticket}

/-- A submission in flight, entered into runs that are in step without one. -/
theorem flying
    (hstep : InStep (ε := ε) ⟨⟨rest, none, k, false⟩, s, h⟩ ⟨⟨rest', none, k, false⟩, s, h'⟩)
    (stage : Stage V) (hchain : List.Forall₂ (GoAlike V) chain chain') :
    InStep (ε := ε) ⟨⟨rest, some ⟨ticket, stage, chain⟩, k, false⟩, s, h⟩
      ⟨⟨rest', some ⟨ticket, stage, chain'⟩, k, false⟩, s, h'⟩ :=
  ⟨⟨hstep.run.tasks, .some ⟨rfl, rfl, hchain⟩, rfl, rfl⟩, hstep.shown⟩

theorem next_await
    (hstep : InStep (ε := ε) ⟨⟨rest, none, k, false⟩, s, h⟩ ⟨⟨rest', none, k, false⟩, s, h'⟩)
    (hchain : List.Forall₂ (GoAlike V) chain chain') :
    (next flow ⟨⟨rest, some ⟨ticket, .await, chain⟩, k, false⟩, s, h⟩).InStep
      (next flow ⟨⟨rest', some ⟨ticket, .await, chain'⟩, k, false⟩, s, h'⟩) := by
  rw [Course.next_await, Course.next_await]
  rcases flow.pollReply s with ⟨_ | e | reply, s'⟩
  · exact ((hstep.flying .await hchain).called _ _).returning _
  · exact (hstep.called _ _).broken _
  · by_cases hticket : reply.ticket = ticket
    · simpa only [hticket, if_true] using (hstep.called _ _).landed ticket reply.answer hchain
    · simpa only [hticket, if_false] using (hstep.called _ _).broken _

theorem next_flush
    (hstep : InStep (ε := ε) ⟨⟨rest, none, k, false⟩, s, h⟩ ⟨⟨rest', none, k, false⟩, s, h'⟩)
    (hchain : List.Forall₂ (GoAlike V) chain chain') :
    (next flow ⟨⟨rest, some ⟨ticket, .flush, chain⟩, k, false⟩, s, h⟩).InStep
      (next flow ⟨⟨rest', some ⟨ticket, .flush, chain'⟩, k, false⟩, s, h'⟩) := by
  rw [Course.next_flush, Course.next_flush]
  rcases flow.pollFlush s with ⟨_ | e | _, s'⟩
  · exact ((hstep.flying .flush hchain).called _ _).returning _
  · exact (hstep.called _ _).broken _
  · exact next_await (hstep.called _ _) hchain

theorem next_dispatch {submission : Submission V}
    (hstep : InStep (ε := ε) ⟨⟨rest, none, k, false⟩, s, h⟩ ⟨⟨rest', none, k, false⟩, s, h'⟩)
    (hchain : List.Forall₂ (GoAlike V) chain chain') :
    (next flow ⟨⟨rest, some ⟨ticket, .dispatch submission, chain⟩, k, false⟩, s, h⟩).InStep
      (next flow ⟨⟨rest', some ⟨ticket, .dispatch submission, chain'⟩, k, false⟩, s, h'⟩) := by
  rw [Course.next_dispatch, Course.next_dispatch]
  rcases flow.pollReady s with ⟨_ | e | _, s'⟩
  · exact ((hstep.flying (.dispatch submission) hchain).called _ _).returning _
  · exact (hstep.called _ _).broken _
  · rcases hstart : flow.startDispatch submission s' with ⟨e | _, s''⟩
    · simp only [hstart]
      exact ((hstep.called _ s').called _ s'').broken _
    · simp only [hstart]
      exact next_flush ((hstep.called _ s').called _ s'') hchain

end Driving

theorem next_close
    (hstep : InStep (ε := ε) ⟨⟨[], none, k, false⟩, s, h⟩ ⟨⟨[], none, k, false⟩, s, h'⟩) :
    (next flow ⟨⟨[], none, k, false⟩, s, h⟩).InStep (next flow ⟨⟨[], none, k, false⟩, s, h'⟩) := by
  rw [Course.next_close, Course.next_close]
  rcases flow.pollClose s with ⟨_ | e | _, s'⟩
  · exact (hstep.called _ _).returning _
  · exact (hstep.called _ _).broken _
  · have hover : InStep (ε := ε) ⟨⟨[], none, k, true⟩, s, h⟩ ⟨⟨[], none, k, true⟩, s, h'⟩ :=
      ⟨⟨.nil, .none, rfl, rfl⟩, hstep.shown⟩
    exact (hover.called _ s').returning _

/-- A leaf is taken up like one it matches. -/
theorem next_leaf {plan plan' : Plan V S} (hplan : Plan.LeafMatches (GoAlike V) plan plan')
    (hchain : List.Forall₂ (GoAlike V) chain chain')
    (hstep : InStep (ε := ε) ⟨⟨rest, none, k, false⟩, s, h⟩ ⟨⟨rest', none, k, false⟩, s, h'⟩) :
    (next flow ⟨⟨⟨plan, chain⟩ :: rest, none, k, false⟩, s, h⟩).InStep
      (next flow ⟨⟨⟨plan', chain'⟩ :: rest', none, k, false⟩, s, h'⟩) := by
  cases hplan with
  | done value =>
    rw [next_done, next_done]
    exact hstep.handed value hchain
  | submit request =>
    rw [next_submit, next_submit]
    exact ⟨⟨hstep.run.tasks, .some ⟨rfl, rfl, hchain⟩, rfl, rfl⟩, hstep.shown⟩
  | sequence first hsteps =>
    rw [next_sequence, next_sequence]
    refine ⟨⟨?_, .none, rfl, rfl⟩, hstep.shown⟩
    show List.Forall₂ _ (Run.leaves (_ :: _)) (Run.leaves (_ :: _))
    rw [Run.leaves_cons, Run.leaves_cons]
    refine List.rel_append (Task.matches_of_plans ?_ ?_) hstep.run.tasks
    · exact Plan.matchesBy_refl GoAlike.refl first
    · exact List.rel_append (List.rel_reverse hsteps) hchain
  | mistyped =>
    rw [next_mistyped, next_mistyped]
    exact hstep.broken _

/-- A run that stands at a leaf is kept up with. -/
theorem next_at_leaf (flow : Flow V σ ε) {plan : Plan V S} (hplan : plan.leaves = [plan])
    {c' : Course V S σ ε} (hstep : InStep ⟨⟨⟨plan, chain⟩ :: rest, none, k, false⟩, s, h⟩ c') :
    ∃ n, (Course.next flow ⟨⟨⟨plan, chain⟩ :: rest, none, k, false⟩, s, h⟩).InStep
      ((Course.next flow)^[n] c') := by
  obtain ⟨⟨tasks', _ | flight, k', finished⟩, s', h'⟩ := c'
  · obtain ⟨⟨htasks, -, rfl, rfl⟩, rfl, hshown⟩ := hstep
    obtain ⟨n, tasks'', hmoves, hleaves, hhead⟩ := settles flow tasks' k s h'
    rw [← hleaves, Run.leaves_cons, hplan] at htasks
    rcases tasks'' with _ | ⟨⟨plan', chain'⟩, rest'⟩
    · cases htasks
    · have hplan' : plan'.leaves = [plan'] := hhead _ rfl
      rw [Run.leaves_cons, hplan'] at htasks
      obtain ⟨⟨hleaf, hchain⟩, hrest⟩ := List.forall₂_cons.mp htasks
      refine ⟨n + 1, ?_⟩
      rw [Function.iterate_succ_apply', hmoves]
      exact next_leaf hleaf hchain ⟨⟨hrest, .none, rfl, rfl⟩, rfl, hshown⟩
  · cases hstep.run.flight

/-- A run that has nothing left is kept up with. -/
theorem next_at_end (flow : Flow V σ ε) {c' : Course V S σ ε}
    (hstep : InStep ⟨⟨[], none, k, false⟩, s, h⟩ c') :
    ∃ n, (Course.next flow ⟨⟨[], none, k, false⟩, s, h⟩).InStep ((Course.next flow)^[n] c') := by
  obtain ⟨⟨tasks', _ | flight, k', finished⟩, s', h'⟩ := c'
  · obtain ⟨⟨htasks, -, rfl, rfl⟩, rfl, hshown⟩ := hstep
    obtain ⟨n, tasks'', hmoves, hleaves, hhead⟩ := settles flow tasks' k s h'
    rw [← hleaves] at htasks
    rcases tasks'' with _ | ⟨⟨plan', chain'⟩, rest'⟩
    · refine ⟨n + 1, ?_⟩
      rw [Function.iterate_succ_apply', hmoves]
      exact next_close ⟨⟨.nil, .none, rfl, rfl⟩, rfl, hshown⟩
    · have hplan' : plan'.leaves = [plan'] := hhead _ rfl
      rw [Run.leaves_cons, hplan'] at htasks
      cases htasks
  · cases hstep.run.flight

/-- A move of one of two runs in step is kept up with by some moves of the other. -/
theorem next (flow : Flow V σ ε) {c c' : Course V S σ ε} (hstep : c.InStep c') :
    ∃ n, (c.next flow).InStep ((Course.next flow)^[n] c') := by
  obtain ⟨run, s, h⟩ := c
  cases run using Run.step_cases with
  | ended tasks flight k =>
    refine ⟨1, ?_⟩
    rw [next_of_finished flow rfl, Function.iterate_one,
      next_of_finished flow hstep.run.finished.symm]
    exact hstep.returning _
  | closing k => exact hstep.next_at_end flow
  | undertaking plan chain rest k =>
    cases plan with
    | empty =>
      rw [next_empty]
      refine ⟨0, ⟨?_, hstep.run.flight, hstep.run.submitted, hstep.run.finished⟩, hstep.shown⟩
      exact hstep.run.tasks
    | concat parts =>
      rw [next_concat]
      refine ⟨0, ⟨?_, hstep.run.flight, hstep.run.submitted, hstep.run.finished⟩, hstep.shown⟩
      rw [Run.leaves_concat]
      exact hstep.run.tasks
    | done value => exact hstep.next_at_leaf flow rfl
    | submit request => exact hstep.next_at_leaf flow rfl
    | sequence first steps => exact hstep.next_at_leaf flow rfl
    | mistyped => exact hstep.next_at_leaf flow rfl
  | driving flight tasks k =>
    obtain ⟨⟨tasks', _ | ⟨ticket, stage, chain'⟩, k', finished⟩, s', h'⟩ := c'
    · cases hstep.run.flight
    · obtain ⟨⟨htasks, hflight, rfl, rfl⟩, rfl, hshown⟩ := hstep
      obtain ⟨ticket, stage, chain⟩ := flight
      cases hflight with
      | some hflight =>
        obtain ⟨rfl, rfl, hchain⟩ := hflight
        have hrest : InStep (ε := ε) ⟨⟨tasks, none, k, false⟩, s, h⟩
            ⟨⟨tasks', none, k, false⟩, s, h'⟩ := ⟨⟨htasks, .none, rfl, rfl⟩, rfl, hshown⟩
        refine ⟨1, ?_⟩
        cases stage with
        | dispatch submission => exact next_dispatch hrest hchain
        | flush => exact next_flush hrest hchain
        | await => exact next_await hrest hchain

theorem iterate (flow : Flow V σ ε) {c c' : Course V S σ ε} (hstep : c.InStep c') (n : ℕ) :
    ∃ m, ((Course.next flow)^[n] c).InStep ((Course.next flow)^[m] c') := by
  induction n with
  | zero => exact ⟨0, hstep⟩
  | succ n ih =>
    obtain ⟨m, hm⟩ := ih
    obtain ⟨more, hnext⟩ := hm.next flow
    refine ⟨more + m, ?_⟩
    rw [Function.iterate_succ_apply', Function.iterate_add_apply]
    exact hnext

end InStep

end Course

/-- The runs of plans that match show the same. -/
theorem Plan.Matches.indistinct {p q : Plan V S} (hpq : p.Matches q) : p.Indistinct q := by
  have hstart : ∀ {p q : Plan V S}, p.Matches q → ∀ {σ ε : Type} (s : σ),
      (Course.start (ε := ε) p s).InStep (Course.start q s) := by
    intro p q hpq σ ε s
    refine ⟨⟨?_, .none, rfl, rfl⟩, rfl, rfl⟩
    show List.Forall₂ _ (Run.leaves [_]) (Run.leaves [_])
    rw [Run.leaves_cons, Run.leaves_cons]
    exact List.rel_append (Task.matches_of_plans hpq .nil) .nil
  have hqp : q.Matches p := Plan.MatchesBy.imp (fun _ _ ↦ GoAlike.symm) (Plan.MatchesBy.flip hpq)
  intro σ ε flow s
  constructor
  · intro n
    obtain ⟨m, hm⟩ := (hstart hpq s).iterate flow n
    exact ⟨m, hm.shown⟩
  · intro m
    obtain ⟨n, hn⟩ := (hstart hqp s).iterate flow m
    exact ⟨n, hn.shown.1.symm, hn.shown.2.symm⟩

end InStep

end Errand
