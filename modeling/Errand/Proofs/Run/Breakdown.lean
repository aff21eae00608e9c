import Errand.EventLoop
import Errand.Proofs.Run.Determinism
import Errand.Proofs.Run.Discipline
import Errand.Values

/-!
Runs over flows that break down (`Course.breakdown`). A call that breaks ends the run in the same
move: the error that says which call it was is returned, and after it only `none`
(`Course.IntactOrCut.later_eq`). What came before is what happens over a flow that does not break
there.

A rejected submission breaks nothing: a run goes on as if the answer had been filtered
(`Course.after_lenient`).
-/

set_option autoImplicit false

namespace Errand

variable {V : ValueTypes} {S σ σ' ε : Type}

/-! ### Breaches -/

/-- The error with which a run ends if a call is answered so, `expected` being the ticket in
flight. -/
def FlowCall.breach? (expected : Option Ticket) : FlowCall V ε → Option (RunError ε)
  | .ready (.ready (.error e)) | .dispatch _ (.error e) | .flush (.ready (.error e))
  | .close (.ready (.error e)) => some (.dispatch e)
  | .reply (.ready (.error e)) => some (.collect e)
  | .reply (.ready (.ok received)) =>
    match expected with
    | some ticket =>
      if received.ticket = ticket then none else some (.desynchronized ticket received.ticket)
    | none => none
  | _ => none

/-- The ticket of the last submission that was handed over. -/
def lastTicket? (past : List (Happening V S ε)) : Option Ticket :=
  (dispatchedIn past).getLast?.map Submission.ticket

/-- No call has broken. -/
def Intact (history : List (Happening V S ε)) : Prop :=
  Throughout (fun past happening ↦ ∀ call, happening = .call call →
    call.breach? (lastTicket? past) = none) history

theorem InFlight.lastTicket {ticket : Ticket} {later past : List (Happening V S ε)}
    (hpast : InFlight ticket later past) : lastTicket? past = some ticket := by
  obtain ⟨before, submission, rfl, rfl, -, hlater, -⟩ := hpast
  have hdispatched : dispatchedIn (before ++ .call (.dispatch submission (.ok ())) :: later) =
      dispatchedIn before ++ [submission] := by
    rw [dispatchedIn_append]
    simp [dispatchedIn, Happening.dispatched?] at hlater ⊢
    exact hlater
  simp [lastTicket?, hdispatched]

namespace Course

/-- The run ended with an error at once when a call broke, and has only returned `none` since. -/
def Cut (c : Course V S σ ε) : Prop :=
  ∃ past call error m, Intact past ∧ call.breach? (lastTicket? past) = some error ∧
    c.run.finished = true ∧
    c.history = past ++ .call call :: .returned (.ready (some (.error error))) ::
      List.replicate m (.returned (.ready none))

/-- No call has broken, or the first that did has cut the run. -/
def IntactOrCut (c : Course V S σ ε) : Prop := Intact c.history ∨ c.Cut

end Course

section Intact

variable {h : List (Happening V S ε)}

theorem Intact.call (hintact : Intact h) {call : FlowCall V ε}
    (hcall : call.breach? (lastTicket? h) = none) : Intact (h ++ [.call call]) := by
  refine hintact.append ?_
  rintro _ ⟨⟩
  exact hcall

theorem Intact.returned (hintact : Intact h) (outcome : Poll (Option (Item V ε))) :
    Intact (h ++ [.returned outcome]) :=
  hintact.append nofun

theorem Intact.resumed (hintact : Intact h) (step : S) (value : Payload V) :
    Intact (h ++ [.resumed step value]) :=
  hintact.append nofun

end Intact

namespace Course

theorem cut_of_breach {c : Course V S σ ε} (hintact : Intact c.history) {call : FlowCall V ε}
    {error : RunError ε} (hbreach : call.breach? (lastTicket? c.history) = some error) (state : σ) :
    ((called call state c).broken error).Cut := by
  refine ⟨c.history, call, error, 0, hintact, hbreach, rfl, ?_⟩
  simp [called, Course.broken, returning]

section Moves

variable [Resumes V S] {flow : Flow V σ ε} {tasks : List (Task V S)} {chain : List S} {k : ℕ}
  {s : σ} {h : List (Happening V S ε)} {ticket : Ticket} {c : Course V S σ ε}

theorem intact_handed (hintact : Intact c.history) (value : Payload V) (chain : List S) :
    Intact (c.handed value chain).history := by
  cases chain with
  | nil => exact hintact.returned _
  | cons step chain => exact hintact.resumed step value

theorem intact_landed (hintact : Intact c.history) (ticket : Ticket) (chain : List S)
    (answer : Answer (Payload V)) : Intact (c.landed ticket chain answer).history := by
  cases answer with
  | success value => exact intact_handed hintact value chain
  | filtered => exact hintact
  | failure cause => exact hintact.returned _

theorem cut_next_await (hintact : Intact h)
    (hc : Sound ⟨⟨tasks, some ⟨ticket, .await, chain⟩, k, false⟩, s, h⟩) :
    IntactOrCut (next flow ⟨⟨tasks, some ⟨ticket, .await, chain⟩, k, false⟩, s, h⟩) := by
  obtain ⟨-, -, later, hlater, -⟩ := hc.stands.resolve_left nofun
  have hticket : lastTicket? h = some ticket := hlater.lastTicket
  rw [next_await]
  rcases flow.pollReply s with ⟨_ | e | reply, s'⟩
  · exact Or.inl ((hintact.call rfl).returned _)
  · exact Or.inr (cut_of_breach hintact rfl s')
  · by_cases hsame : reply.ticket = ticket
    · simp only [if_pos hsame]
      refine Or.inl (intact_landed (hintact.call ?_) _ _ _)
      simp [FlowCall.breach?, hticket, hsame]
    · simp only [if_neg hsame]
      refine Or.inr (cut_of_breach hintact ?_ s')
      simp [FlowCall.breach?, hticket, hsame]

theorem cut_next_flush (hintact : Intact h)
    (hc : Sound ⟨⟨tasks, some ⟨ticket, .flush, chain⟩, k, false⟩, s, h⟩) :
    IntactOrCut (next flow ⟨⟨tasks, some ⟨ticket, .flush, chain⟩, k, false⟩, s, h⟩) := by
  rw [next_flush]
  rcases flow.pollFlush s with ⟨_ | e | _, s'⟩
  · exact Or.inl ((hintact.call rfl).returned _)
  · exact Or.inr (cut_of_breach hintact rfl s')
  · exact cut_next_await (hintact.call rfl) (hc.flushed s')

theorem cut_next_dispatch (hintact : Intact h) {submission : Submission V}
    (hc : Sound ⟨⟨tasks, some ⟨ticket, .dispatch submission, chain⟩, k, false⟩, s, h⟩) :
    IntactOrCut
      (next flow ⟨⟨tasks, some ⟨ticket, .dispatch submission, chain⟩, k, false⟩, s, h⟩) := by
  rw [next_dispatch]
  rcases flow.pollReady s with ⟨_ | e | _, s'⟩
  · exact Or.inl ((hintact.call rfl).returned _)
  · exact Or.inr (cut_of_breach hintact rfl s')
  · have hready : Intact (h ++ [.call (.ready (.ready (.ok ())))]) := hintact.call rfl
    rcases hstart : flow.startDispatch submission s' with ⟨e | _, s''⟩
    · simp only [hstart]
      exact Or.inr (cut_of_breach hready rfl s'')
    · simp only [hstart]
      exact cut_next_flush (hready.call rfl) (hc.dispatched s'')

theorem cut_next_close (hintact : Intact h) :
    IntactOrCut (next flow ⟨⟨[], none, k, false⟩, s, h⟩) := by
  rw [next_close]
  rcases flow.pollClose s with ⟨_ | e | _, s'⟩
  · exact Or.inl ((hintact.call rfl).returned _)
  · exact Or.inr (cut_of_breach hintact rfl s')
  · exact Or.inl ((hintact.call rfl).returned _)

/-- A run that is cut stays so. -/
theorem Cut.next (hcut : c.Cut) (flow : Flow V σ ε) : (c.next flow).Cut := by
  obtain ⟨past, call, error, m, hintact, hbreach, hfinished, hhistory⟩ := hcut
  rw [next_of_finished flow hfinished]
  refine ⟨past, call, error, m + 1, hintact, hbreach, hfinished, ?_⟩
  simp [Course.returning, hhistory, List.replicate_succ']

/-- The first call that breaks cuts the run in the same move. -/
theorem IntactOrCut.next (hkept : c.IntactOrCut) (flow : Flow V σ ε) (hc : c.Sound) :
    (c.next flow).IntactOrCut := by
  rcases hkept with hintact | hcut
  · obtain ⟨run, s, h⟩ := c
    have hintact : Intact h := hintact
    cases run using Run.step_cases with
    | ended =>
      rw [next_finished]
      exact Or.inl (hintact.returned _)
    | closing => exact cut_next_close hintact
    | undertaking plan chain rest k =>
      left
      cases plan with
      | done value =>
        rw [next_done]
        refine intact_handed ?_ value chain
        exact hintact
      | empty =>
        rw [next_empty]
        exact hintact
      | submit request =>
        rw [next_submit]
        exact hintact
      | sequence first steps =>
        rw [next_sequence]
        exact hintact
      | concat parts =>
        rw [next_concat]
        exact hintact
      | mistyped =>
        rw [next_mistyped]
        exact hintact.returned _
    | driving flight =>
      obtain ⟨ticket, stage, chain⟩ := flight
      cases stage with
      | dispatch submission => exact cut_next_dispatch hintact hc
      | flush => exact cut_next_flush hintact hc
      | await => exact cut_next_await hintact hc
  · exact Or.inr (hcut.next flow)

theorem intactOrCut_after (flow : Flow V σ ε) (plan : Plan V S) (s : σ) (n : ℕ) :
    (after flow plan s n).IntactOrCut := by
  induction n with
  | zero =>
    refine Or.inl fun past happening later heq ↦ ?_
    simp [after, start] at heq
  | succ n ih =>
    rw [after_succ]
    exact ih.next flow (sound_after flow plan s n)

end Moves

/-- After a call that broke, the run has returned its error and then only `none`. -/
theorem IntactOrCut.later_eq {c : Course V S σ ε} (hkept : c.IntactOrCut)
    {past later : List (Happening V S ε)} {call : FlowCall V ε} {error : RunError ε}
    (hhistory : c.history = past ++ .call call :: later)
    (hbreach : call.breach? (lastTicket? past) = some error) :
    ∃ m, later = .returned (.ready (some (.error error))) ::
      List.replicate m (.returned (.ready none)) := by
  rcases hkept with hintact | ⟨past₀, call₀, error₀, m, hintact, hbreach₀, -, hhistory₀⟩
  · rw [hintact past _ later hhistory call rfl] at hbreach
    cases hbreach
  · rw [hhistory] at hhistory₀
    have hpast : past = past₀ := by
      rcases List.append_eq_append_iff.mp hhistory₀ with
        ⟨_ | ⟨happening, between⟩, rfl, hlater⟩ | ⟨_ | ⟨happening, between⟩, rfl, hlater⟩
      · exact (List.append_nil past).symm
      · -- Nothing broke before the first call that broke.
        obtain ⟨rfl, -⟩ := List.cons_eq_cons.mp hlater
        rw [hintact past _ between rfl call rfl] at hbreach
        cases hbreach
      · exact List.append_nil past₀
      · -- Nothing is called after it.
        obtain ⟨-, hlater⟩ := List.cons_eq_cons.mp hlater
        have hmem : Happening.call call ∈ between.append (.call call :: later) := by simp
        rw [← hlater] at hmem
        simp at hmem
    subst hpast
    obtain ⟨hcall, rfl⟩ := List.cons_eq_cons.mp (List.append_cancel_left hhistory₀)
    obtain rfl := Happening.call.inj hcall
    rw [hbreach] at hbreach₀
    obtain rfl := Option.some.inj hbreach₀
    exact ⟨m, rfl⟩

end Course

/-! ### Rejections -/

/-- A flight that failed was not rejected. -/
theorem Flight.not_rejected_of_failed {flow : Flow V σ ε} (flight : Flight V S) {s s' : σ}
    {error : RunError ε} (hfailed : flight.poll flow s = (.failed error, s')) (ticket : Ticket)
    (cause : Failure) : error ≠ .rejected ticket cause := by
  rintro rfl
  rcases hstage : flight.stage.poll flow s with ⟨_ | _ | _ | reply, t⟩
  · simp [poll, hstage] at hfailed
  · simp [poll, hstage] at hfailed
  · simp [poll, hstage] at hfailed
  · by_cases hticket : reply.ticket = flight.ticket <;> simp [poll, hstage, hticket] at hfailed

/-- A move that returns a rejection ends the flight alone: every task is left to be done. -/
theorem Run.step_of_rejected [Resumes V S] {flow : Flow V σ ε} {run : Run V S} {s : σ}
    {ticket : Ticket} {cause : Failure}
    (hrejected : (run.step flow s).1.1 = .item (some (.error (.rejected ticket cause)))) :
    (run.step flow s).1.2 = { run with flight := none } ∧ run.finished = false := by
  have hdeliver : ∀ value chain (run : Run V S),
      (deliver (ε := ε) value chain run).1 ≠ .item (some (.error (.rejected ticket cause))) := by
    intro value chain run hitem
    cases eq_ok_of_deliver hitem
  cases run using step_cases with
  | ended => simp [step] at hrejected
  | closing =>
    rcases hclose : flow.pollClose s with ⟨_ | _ | _, s'⟩ <;>
      simp [step, close, hclose] at hrejected
  | undertaking plan => cases plan <;> simp_all [step, undertake]
  | driving flight =>
    rcases hpoll : flight.poll flow s with ⟨_ | _ | answer, s'⟩
    · simp [step, hpoll, land] at hrejected
    · have hrejection := flight.not_rejected_of_failed hpoll
      simp_all [step, land]
    · cases answer <;> simp_all [step, land]

/-- An answer as it would be if its failure had been a filtered response. -/
def Answer.lenient {α : Type} : Answer α → Answer α
  | success value => .success value
  | filtered | failure _ => .filtered

/-- A reply whose failure is filtered. -/
def Poll.lenient : Poll (Except ε (Reply V)) → Poll (Except ε (Reply V))
  | .ready (.ok reply) => .ready (.ok { reply with answer := reply.answer.lenient })
  | answer => answer

/-- A flow whose rejections are filtered. -/
def Flow.lenient (flow : Flow V σ ε) : Flow V σ ε :=
  { flow with
    pollReply := fun s ↦
      let (answer, s) := flow.pollReply s
      (answer.lenient, s) }

/-- A happening as it would be if rejections were filtered, if it would happen at all. -/
def Happening.lenient? : Happening V S ε → Option (Happening V S ε)
  | .call (.reply answer) => some (.call (.reply answer.lenient))
  | .returned (.ready (some (.error (.rejected _ _)))) => none
  | happening => some happening

namespace Course

/-- A course as it would be if rejections were filtered. -/
def lenient (c : Course V S σ ε) : Course V S σ ε :=
  { c with history := c.history.filterMap Happening.lenient? }

section Lenient

variable [Resumes V S] {flow : Flow V σ ε} {tasks : List (Task V S)} {chain : List S} {k : ℕ}
  {s : σ} {h : List (Happening V S ε)} {ticket : Ticket}

theorem lenient_handed (value : Payload V) (chain : List S) (c : Course V S σ ε) :
    (c.handed value chain).lenient = c.lenient.handed value chain := by
  cases chain <;> simp [lenient, handed, returning, Happening.lenient?]

omit [Resumes V S] in
theorem lenient_broken {error : RunError ε} (hterminal : error.isTerminal = true)
    (c : Course V S σ ε) : (c.broken error).lenient = c.lenient.broken error := by
  cases error with
  | rejected ticket cause => cases hterminal
  | _ => simp [lenient, broken, returning, Happening.lenient?]

/-- A rejection is left out where its answer is filtered. -/
theorem lenient_landed (ticket : Ticket) (chain : List S) (answer : Answer (Payload V))
    (c : Course V S σ ε) :
    (c.landed ticket chain answer).lenient = c.lenient.landed ticket chain answer.lenient := by
  cases answer with
  | success value => exact lenient_handed value chain c
  | filtered => rfl
  | failure cause => simp [lenient, landed, returning, Answer.lenient, Happening.lenient?]

theorem lenient_next_await :
    (next flow ⟨⟨tasks, some ⟨ticket, .await, chain⟩, k, false⟩, s, h⟩).lenient =
      next flow.lenient ⟨⟨tasks, some ⟨ticket, .await, chain⟩, k, false⟩, s,
        h.filterMap Happening.lenient?⟩ := by
  rw [next_await, next_await]
  rcases hreply : flow.pollReply s with ⟨_ | e | reply, s'⟩
  · simp [Flow.lenient, hreply, Poll.lenient, lenient, called, returning, Happening.lenient?]
  · simp [Flow.lenient, hreply, Poll.lenient, lenient, called, broken, returning,
      Happening.lenient?]
  · by_cases hticket : reply.ticket = ticket
    · simp only [Flow.lenient, hreply, Poll.lenient, if_pos hticket]
      rw [lenient_landed]
      simp [lenient, called, Happening.lenient?, Poll.lenient]
    · simp only [Flow.lenient, hreply, Poll.lenient, if_neg hticket]
      rw [lenient_broken rfl]
      simp [lenient, called, Happening.lenient?, Poll.lenient]

theorem lenient_next_flush :
    (next flow ⟨⟨tasks, some ⟨ticket, .flush, chain⟩, k, false⟩, s, h⟩).lenient =
      next flow.lenient ⟨⟨tasks, some ⟨ticket, .flush, chain⟩, k, false⟩, s,
        h.filterMap Happening.lenient?⟩ := by
  rw [next_flush, next_flush]
  have hsame : flow.lenient.pollFlush s = flow.pollFlush s := rfl
  rw [hsame]
  rcases flow.pollFlush s with ⟨_ | e | _, s'⟩
  · simp [lenient, called, returning, Happening.lenient?]
  · simp [lenient, called, broken, returning, Happening.lenient?]
  · refine lenient_next_await.trans ?_
    simp [called, Happening.lenient?]

theorem lenient_next_dispatch {submission : Submission V} :
    (next flow ⟨⟨tasks, some ⟨ticket, .dispatch submission, chain⟩, k, false⟩, s, h⟩).lenient =
      next flow.lenient ⟨⟨tasks, some ⟨ticket, .dispatch submission, chain⟩, k, false⟩, s,
        h.filterMap Happening.lenient?⟩ := by
  rw [next_dispatch, next_dispatch]
  have hsame : flow.lenient.pollReady s = flow.pollReady s := rfl
  rw [hsame]
  rcases flow.pollReady s with ⟨_ | e | _, s'⟩
  · simp [lenient, called, returning, Happening.lenient?]
  · simp [lenient, called, broken, returning, Happening.lenient?]
  · have hstarts : flow.lenient.startDispatch submission s' =
      flow.startDispatch submission s' := rfl
    simp only [hstarts]
    rcases flow.startDispatch submission s' with ⟨e | _, s''⟩
    · simp [lenient, called, broken, returning, Happening.lenient?]
    · refine lenient_next_flush.trans ?_
      simp [called, Happening.lenient?]

theorem lenient_next_close :
    (next flow ⟨⟨[], none, k, false⟩, s, h⟩).lenient =
      next flow.lenient ⟨⟨[], none, k, false⟩, s, h.filterMap Happening.lenient?⟩ := by
  rw [next_close, next_close]
  have hsame : flow.lenient.pollClose s = flow.pollClose s := rfl
  rw [hsame]
  rcases flow.pollClose s with ⟨_ | e | _, s'⟩
  · simp [lenient, called, returning, Happening.lenient?]
  · simp [lenient, called, broken, returning, Happening.lenient?]
  · simp [lenient, called, returning, Happening.lenient?]

/-- Filtering rejections takes them out of a move and changes nothing else. -/
theorem lenient_next (flow : Flow V σ ε) (c : Course V S σ ε) :
    (c.next flow).lenient = c.lenient.next flow.lenient := by
  obtain ⟨run, s, h⟩ := c
  show _ = next flow.lenient ⟨run, s, h.filterMap Happening.lenient?⟩
  cases run using Run.step_cases with
  | ended =>
    rw [next_finished, next_finished]
    simp [lenient, returning, Happening.lenient?]
  | closing => exact lenient_next_close
  | undertaking plan chain rest k =>
    cases plan with
    | done value =>
      rw [next_done, next_done]
      exact lenient_handed value chain _
    | empty =>
      rw [next_empty, next_empty]
      rfl
    | submit request =>
      rw [next_submit, next_submit]
      rfl
    | sequence first steps =>
      rw [next_sequence, next_sequence]
      rfl
    | concat parts =>
      rw [next_concat, next_concat]
      rfl
    | mistyped =>
      rw [next_mistyped, next_mistyped]
      exact lenient_broken rfl _
  | driving flight =>
    obtain ⟨ticket, stage, chain⟩ := flight
    cases stage with
    | dispatch submission => exact lenient_next_dispatch
    | flush => exact lenient_next_flush
    | await => exact lenient_next_await

/-- Where rejections are filtered, a run goes through the same states. -/
theorem after_lenient (flow : Flow V σ ε) (plan : Plan V S) (s : σ) (n : ℕ) :
    (after flow plan s n).lenient = after flow.lenient plan s n := by
  induction n with
  | zero => rfl
  | succ n ih =>
    rw [after_succ, after_succ, lenient_next, ih]

end Lenient

/-- Over a flow that answers as another does until a call breaks, a run does what it does over the
other up to that call; then it returns the one error that says how the call broke, and only `none`
from then on. A rejection is no such error: the run stays where it would be if the answer had been
filtered, with every task left to be done. -/
theorem breakdown [Resumes V S] (flow : Flow V σ ε) (flow' : Flow V σ' ε) (plan : Plan V S) (s : σ)
    (s' : σ') :
    (∀ n past call later error t, (after flow' plan s' n).history = past ++ .call call :: later →
        flow.Path s (callsIn past) t → call.breach? (lastTicket? past) = some error →
          (∃ m, later = .returned (.ready (some (.error error))) ::
              List.replicate m (.returned (.ready none))) ∧
            ∃ call₀ later₀, (after flow plan s n).history = past ++ .call call₀ :: later₀) ∧
      (∀ n, (after flow plan s n).lenient = after flow.lenient plan s n) ∧
      ∀ n ticket cause,
        ((after flow plan s n).run.step flow (after flow plan s n).state).1.1 =
            .item (some (.error (.rejected ticket cause))) →
          (after flow plan s (n + 1)).run = { (after flow plan s n).run with flight := none } ∧
            (after flow plan s n).run.finished = false := by
  refine ⟨?_, after_lenient flow plan s, ?_⟩
  · intro n past call later error t hhistory hpath hbreach
    exact ⟨(intactOrCut_after flow' plan s' n).later_eq hhistory hbreach,
      history_of_path flow flow' hhistory hpath⟩
  · intro n ticket cause hrejected
    have hnext : (after flow plan s (n + 1)).run =
        ((after flow plan s n).run.step flow (after flow plan s n).state).1.2 := by
      rw [after_succ, next_eq]
    rw [hnext]
    exact Run.step_of_rejected hrejected

/-- A flow that is full after one submission, which was rejected. -/
theorem breakdown_of_full :
    let service : TimedService values ℕ := fun _ _ n ↦ (.error (.dropped "lost"), n + 1)
    let flow := EventLoop.flow service .caller .script
    let well : EventLoop values ℕ := .start 0 fun _ ↦ []
    let full : EventLoop values ℕ := .start 0 fun call ↦
      if call = .ready then [.well, .fail "full"] else []
    let request : Request (Payload values) :=
      { route := ⟨.get, "/"⟩, decode := fun _ ↦ .ok none, label := "Get" }
    let plan : Erased values := .concat [.submit request, .submit request]
    (∃ later call₀ later₀ m, (after flow plan full 6).history =
          (after flow plan well 4).history ++
            .call (.ready (.ready (.error (.scripted "full")))) :: later ∧
        later = .returned (.ready (some (.error (.dispatch (.scripted "full"))))) ::
          List.replicate m (.returned (.ready none)) ∧
        (after flow plan well 6).history =
          (after flow plan well 4).history ++ .call call₀ :: later₀) ∧
      (after flow plan well 3).run = { (after flow plan well 2).run with flight := none } := by
  intro service flow well full request plan
  have hbreakdown := breakdown flow flow plan well full
  have hpast : (after flow plan well 4).history =
      [.call (.ready (.ready (.ok ()))), .call (.dispatch ⟨⟨0⟩, request⟩ (.ok ())),
        .call (.flush (.ready (.ok ()))),
        .call (.reply (.ready (.ok ⟨⟨0⟩, .failure (.dropped "lost")⟩))),
        .returned (.ready (some (.error (.rejected ⟨0⟩ (.dropped "lost")))))] := by
    rfl
  have hhistory : (after flow plan full 6).history = (after flow plan well 4).history ++
      [.call (.ready (.ready (.error (.scripted "full")))),
        .returned (.ready (some (.error (.dispatch (.scripted "full"))))),
        .returned (.ready none)] := by
    rw [hpast]
    cbv
  have hrejected : ((after flow plan well 2).run.step flow (after flow plan well 2).state).1.1 =
      .item (some (.error (.rejected ⟨0⟩ (.dropped "lost")))) := by
    rfl
  obtain ⟨⟨m, hlater⟩, call₀, later₀, hwell⟩ :=
    hbreakdown.1 6 _ _ _ _ _ hhistory (path_after flow plan well 4) rfl
  exact ⟨⟨_, call₀, later₀, m, hhistory, hlater, hwell⟩, (hbreakdown.2.2 2 _ _ hrejected).1⟩

end Course

end Errand
