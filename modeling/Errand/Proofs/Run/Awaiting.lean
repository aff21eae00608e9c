import Errand.Proofs.Run.Adequacy
import Errand.Proofs.Run.Breakdown

/-!
What a run awaits (`Course.poised_after`). Whenever it asks for a reply, the last thing it has shown
is that it dispatched the submission (`Expectant`), and while it awaits one it is not over: a run
that is over was cut by a call that broke, or has a reply to every submission.
-/

set_option autoImplicit false

namespace Errand

variable {V : ValueTypes} {S σ ε : Type}

/-- Nothing has been shown since the last submission was dispatched. -/
def Hushed (past : List (Happening V S ε)) : Prop :=
  ∃ before submission later, past = before ++ .call (.dispatch submission (.ok ())) :: later ∧
    traceOf later = []

theorem Hushed.append {past : List (Happening V S ε)} (hpast : Hushed past)
    {happening : Happening V S ε} (hsilent : happening.milestone? = none) :
    Hushed (past ++ [happening]) := by
  obtain ⟨before, submission, later, rfl, hlater⟩ := hpast
  exact ⟨before, submission, later ++ [happening], by simp, by rw [traceOf_silent hsilent, hlater]⟩

/-- Where nothing has been shown since, the last submission is that which is being served. -/
theorem Hushed.trace_eq {past : List (Happening V S ε)} {submission : Submission V}
    (hpast : Hushed past) {submissions : List (Submission V)}
    (hdispatched : dispatchedIn past = submissions ++ [submission]) :
    ∃ shown, traceOf past = shown ++ [.dispatched submission] := by
  obtain ⟨before, last, later, rfl, hlater⟩ := hpast
  have hnone : dispatchedIn later = [] := by
    refine List.filterMap_eq_nil_iff.mpr fun happening hmem ↦ ?_
    have hsilent := List.filterMap_eq_nil_iff.mp hlater happening hmem
    rcases happening with (_ | _ | _ | _ | _) | _ | _
    case call.dispatch => cases hsilent
    all_goals rfl
  have hlast : dispatchedIn (before ++ .call (.dispatch last (.ok ())) :: later) =
      dispatchedIn before ++ [last] := by
    rw [← List.singleton_append, dispatchedIn_append, dispatchedIn_append, hnone, List.append_nil]
    rfl
  rw [hlast] at hdispatched
  obtain rfl := List.singleton_inj.mp (List.append_inj' hdispatched rfl).2
  refine ⟨traceOf before, ?_⟩
  rw [← List.singleton_append, traceOf_append, traceOf_append, hlater, List.append_nil]
  rfl

/-- Whenever a reply was asked for, nothing had been shown since the dispatch. -/
def Expectant (history : List (Happening V S ε)) : Prop :=
  Throughout (fun past happening ↦ ∀ answer, happening = .call (.reply answer) → Hushed past)
    history

/-- The submission in flight has been dispatched. -/
def Run.IsAloft (run : Run V S) : Prop :=
  ∃ ticket stage chain, run.flight = some ⟨ticket, stage, chain⟩ ∧ (stage = .flush ∨ stage = .await)

namespace Course

/-- How a run stands to the replies that it awaits. -/
structure Poised (c : Course V S σ ε) : Prop where
  expectant : Expectant c.history
  aloft : c.run.finished = false → c.run.IsAloft → Hushed c.history
  /-- A run that is over was cut, or has its replies. -/
  ended : c.run.finished = true → c.Cut ∨ Settled c.history

section Moves

variable {c : Course V S σ ε} {tasks : List (Task V S)} {chain : List S} {k : ℕ} {s : σ}
  {h : List (Happening V S ε)} {ticket : Ticket}

/-- A run that breaks off does so in a cut. -/
theorem poised_broken (hexpectant : Expectant c.history) {error : RunError ε}
    (hcut : (c.broken error).Cut) : (c.broken error).Poised where
  expectant := hexpectant.append nofun
  aloft := nofun
  ended := fun _ ↦ Or.inl hcut

/-- A run that has nothing aloft only has to be expectant. -/
theorem poised_of_grounded (hexpectant : Expectant c.history) (hgrounded : ¬ c.run.IsAloft)
    (hrunning : c.run.finished = false) : c.Poised where
  expectant := hexpectant
  aloft := fun _ haloft ↦ absurd haloft hgrounded
  ended := fun hfinished ↦ by simp [hrunning] at hfinished

theorem poised_hushed (hexpectant : Expectant c.history) (hhushed : Hushed c.history)
    (hrunning : c.run.finished = false) : c.Poised where
  expectant := hexpectant
  aloft := fun _ _ ↦ hhushed
  ended := fun hfinished ↦ by simp [hrunning] at hfinished

variable [Resumes V S] {flow : Flow V σ ε}

omit [Resumes V S] in
theorem not_isAloft_of_none : ¬ (⟨tasks, none, k, false⟩ : Run V S).IsAloft := by
  rintro ⟨ticket, stage, chain, hflight, -⟩
  cases hflight

theorem poised_handed (hexpectant : Expectant h) (value : Payload V) (chain : List S) :
    Poised (ε := ε) (handed value chain ⟨⟨tasks, none, k, false⟩, s, h⟩) := by
  cases chain with
  | nil => exact poised_of_grounded (hexpectant.append nofun) not_isAloft_of_none rfl
  | cons step chain => exact poised_of_grounded (hexpectant.append nofun) not_isAloft_of_none rfl

theorem poised_landed (hexpectant : Expectant h) (ticket : Ticket) (chain : List S)
    (answer : Answer (Payload V)) :
    Poised (ε := ε) (landed ticket chain ⟨⟨tasks, none, k, false⟩, s, h⟩ answer) := by
  cases answer with
  | success value => exact poised_handed hexpectant value chain
  | filtered => exact poised_of_grounded hexpectant not_isAloft_of_none rfl
  | failure cause => exact poised_of_grounded (hexpectant.append nofun) not_isAloft_of_none rfl

theorem poised_next_await (hexpectant : Expectant h) (hhushed : Hushed h) (hintact : Intact h)
    (hc : Sound ⟨⟨tasks, some ⟨ticket, .await, chain⟩, k, false⟩, s, h⟩) :
    (next flow ⟨⟨tasks, some ⟨ticket, .await, chain⟩, k, false⟩, s, h⟩).Poised := by
  obtain ⟨-, -, later, hlater, -⟩ := hc.stands.resolve_left nofun
  have hasked : ∀ answer, Expectant (h ++ [.call (.reply answer)]) := fun answer ↦
    hexpectant.append fun _ _ ↦ hhushed
  rw [next_await]
  rcases flow.pollReply s with ⟨_ | e | reply, s'⟩
  · exact poised_hushed ((hasked _).append nofun) ((hhushed.append rfl).append rfl) rfl
  · exact poised_broken (hasked _) (cut_of_breach hintact rfl s')
  · by_cases hsame : reply.ticket = ticket
    · simp only [if_pos hsame]
      exact poised_landed (hasked _) ticket chain reply.answer
    · simp only [if_neg hsame]
      refine poised_broken (hasked _) (cut_of_breach hintact ?_ s')
      simp [FlowCall.breach?, hlater.lastTicket, hsame]

theorem poised_next_flush (hexpectant : Expectant h) (hhushed : Hushed h) (hintact : Intact h)
    (hc : Sound ⟨⟨tasks, some ⟨ticket, .flush, chain⟩, k, false⟩, s, h⟩) :
    (next flow ⟨⟨tasks, some ⟨ticket, .flush, chain⟩, k, false⟩, s, h⟩).Poised := by
  have hasked : ∀ answer, Expectant (h ++ [.call (.flush answer)]) := fun answer ↦
    hexpectant.append nofun
  rw [next_flush]
  rcases flow.pollFlush s with ⟨_ | e | _, s'⟩
  · exact poised_hushed ((hasked _).append nofun) ((hhushed.append rfl).append rfl) rfl
  · exact poised_broken (hasked _) (cut_of_breach hintact rfl s')
  · exact poised_next_await (hasked _) (hhushed.append rfl) (hintact.call rfl) (hc.flushed s')

theorem poised_next_dispatch {submission : Submission V} (hexpectant : Expectant h)
    (hintact : Intact h)
    (hc : Sound ⟨⟨tasks, some ⟨ticket, .dispatch submission, chain⟩, k, false⟩, s, h⟩) :
    (next flow ⟨⟨tasks, some ⟨ticket, .dispatch submission, chain⟩, k, false⟩, s, h⟩).Poised := by
  have hready : ∀ answer, Expectant (h ++ [.call (.ready answer)]) := fun answer ↦
    hexpectant.append nofun
  rw [next_dispatch]
  rcases flow.pollReady s with ⟨_ | e | _, s'⟩
  · refine poised_of_grounded ((hready _).append nofun) ?_ rfl
    rintro ⟨_, _, _, ⟨⟩, hstage⟩
    simp at hstage
  · exact poised_broken (hready _) (cut_of_breach hintact rfl s')
  · rcases hstart : flow.startDispatch submission s' with ⟨e | _, s''⟩
    · simp only [hstart]
      have hasked : Expectant (h ++ [.call (.ready (.ready (.ok ())))] ++
          [.call (.dispatch submission (.error e))]) := (hready _).append nofun
      have hready : Intact (h ++ [.call (.ready (.ready (.ok ())))]) := hintact.call rfl
      exact poised_broken hasked (cut_of_breach hready rfl s'')
    · simp only [hstart]
      exact poised_next_flush ((hready _).append nofun) ⟨_, submission, [], rfl, rfl⟩
        ((hintact.call rfl).call rfl) (hc.dispatched s'')

theorem poised_next_close (hexpectant : Expectant h) (hintact : Intact h)
    (hc : Sound ⟨⟨[], none, k, false⟩, s, h⟩) :
    (next flow (⟨⟨[], none, k, false⟩, s, h⟩ : Course V S σ ε)).Poised := by
  obtain ⟨-, hsettled, -⟩ := hc.stands.resolve_left nofun
  have hasked : ∀ answer, Expectant (h ++ [.call (.close answer)]) := fun answer ↦
    hexpectant.append nofun
  rw [next_close]
  rcases flow.pollClose s with ⟨_ | e | _, s'⟩
  · exact poised_of_grounded ((hasked _).append nofun) not_isAloft_of_none rfl
  · exact poised_broken (hasked _) (cut_of_breach hintact rfl s')
  · exact ⟨(hasked _).append nofun, nofun,
      fun _ ↦ Or.inr ((hsettled.append_none rfl).append_none rfl)⟩

theorem Poised.next (hpoised : c.Poised) (flow : Flow V σ ε) (hc : c.Sound)
    (hkept : c.IntactOrCut) : (c.next flow).Poised := by
  by_cases hfinished : c.run.finished = true
  · rw [next_of_finished flow hfinished]
    refine ⟨hpoised.expectant.append nofun, fun hrunning ↦ ?_, fun _ ↦ ?_⟩
    · exact absurd (hrunning.symm.trans hfinished) nofun
    · rcases hpoised.ended hfinished with hcut | hsettled
      · have hnext := hcut.next flow
        rw [next_of_finished flow hfinished] at hnext
        exact Or.inl hnext
      · exact Or.inr (hsettled.append_none rfl)
  · have hintact : Intact c.history := hkept.resolve_right fun ⟨_, _, _, _, _, _, hcut, _⟩ ↦
      hfinished hcut
    obtain ⟨run, s, h⟩ := c
    have hexpectant : Expectant h := hpoised.expectant
    cases run using Run.step_cases with
    | ended => exact absurd rfl hfinished
    | closing => exact poised_next_close hexpectant hintact hc
    | undertaking plan chain rest k =>
      cases plan with
      | done value =>
        rw [next_done]
        exact poised_handed hexpectant value chain
      | empty =>
        rw [next_empty]
        exact poised_of_grounded hexpectant not_isAloft_of_none rfl
      | submit request =>
        rw [next_submit]
        refine poised_of_grounded hexpectant ?_ rfl
        rintro ⟨_, _, _, ⟨⟩, hstage⟩
        simp at hstage
      | sequence first steps =>
        rw [next_sequence]
        exact poised_of_grounded hexpectant not_isAloft_of_none rfl
      | concat parts =>
        rw [next_concat]
        exact poised_of_grounded hexpectant not_isAloft_of_none rfl
      | mistyped =>
        obtain ⟨-, hsettled, -⟩ := hc.stands.resolve_left nofun
        rw [next_mistyped]
        exact ⟨hexpectant.append nofun, nofun, fun _ ↦ Or.inr (hsettled.append_none rfl)⟩
    | driving flight =>
      obtain ⟨ticket, stage, chain⟩ := flight
      cases stage with
      | dispatch submission => exact poised_next_dispatch hexpectant hintact hc
      | flush =>
        exact poised_next_flush hexpectant (hpoised.aloft rfl ⟨_, _, _, rfl, Or.inl rfl⟩) hintact hc
      | await =>
        exact poised_next_await hexpectant (hpoised.aloft rfl ⟨_, _, _, rfl, Or.inr rfl⟩) hintact hc

theorem poised_after (flow : Flow V σ ε) (plan : Plan V S) (s : σ) (n : ℕ) :
    (after flow plan s n).Poised := by
  induction n with
  | zero =>
    refine poised_of_grounded (fun past happening later heq ↦ ?_) not_isAloft_of_none rfl
    simp [after, start] at heq
  | succ n ih =>
    rw [after_succ]
    exact ih.next flow (sound_after flow plan s n) (intactOrCut_after flow plan s n)

end Moves

end Course

end Errand
