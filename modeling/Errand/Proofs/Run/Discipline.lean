import Errand.EventLoop
import Errand.Proofs.Run.History
import Errand.Values

/-!
How a run uses its flow, whatever the flow answers (`Course.orderly_after`). Every happening is
allowed after its past (`Allowed`): submissions are dispatched one at a time and under tickets that
count up, right after the flow said that it was ready; a reply is asked for once the submission has
been flushed, until it comes; the flow is closed when nothing is in flight; a run that is over
leaves its flow alone; and a poll returns pending only right after a call that was pending.

A run stands in its history (`Run.Stands`) where its submission in flight says: every move keeps it
so, call by call.
-/

set_option autoImplicit false

namespace Errand

variable {V : ValueTypes} {S σ ε : Type}

/-- A call that was not answered yet. -/
def FlowCall.isPending : FlowCall V ε → Bool
  | .ready .pending | .flush .pending | .close .pending | .reply .pending => true
  | _ => false

namespace Happening

/-- The submission handed over, whether or not the flow took it. -/
def dispatched? : Happening V S ε → Option (Submission V)
  | .call (.dispatch submission _) => some submission
  | _ => none

/-- Returns after which a run is over: the end, and any error but a rejection. -/
def Ends : Happening V S ε → Prop
  | .returned (.ready none) => True
  | .returned (.ready (some (.error error))) => error.isTerminal = true
  | _ => False

end Happening

/-! ### What is allowed -/

def dispatchedIn (past : List (Happening V S ε)) : List (Submission V) :=
  past.filterMap Happening.dispatched?

/-- The run is not over. -/
def Open (past : List (Happening V S ε)) : Prop := ∀ happening ∈ past, ¬ happening.Ends

/-- Every submission handed over has then been replied to, under its own ticket. -/
def Settled : List (Happening V S ε) → Prop
  | [] => True
  | happening :: later =>
    (∀ submission, happening.dispatched? = some submission →
      ∃ answer, .call (.reply (.ready (.ok ⟨submission.ticket, answer⟩))) ∈ later) ∧
      Settled later

/-- The last submission is in flight under this ticket, with this after it: the flow took it, and no
reply has come. -/
def InFlight (ticket : Ticket) (later past : List (Happening V S ε)) : Prop :=
  ∃ before submission, past = before ++ .call (.dispatch submission (.ok ())) :: later ∧
    submission.ticket = ticket ∧ Settled before ∧ dispatchedIn later = [] ∧
    ∀ answer, .call (.reply answer) ∈ later → answer = .pending

/-- What may happen after the past. -/
def Allowed (past : List (Happening V S ε)) : Happening V S ε → Prop
  | .call (.ready _) => Open past ∧ Settled past
  | .call (.dispatch submission _) =>
    Open past ∧ Settled past ∧ submission.ticket.number = (dispatchedIn past).length ∧
      past.getLast? = some (.call (.ready (.ready (.ok ()))))
  | .call (.flush _) => Open past ∧ ∃ ticket later, InFlight ticket later past
  | .call (.reply _) =>
    Open past ∧ ∃ ticket later, InFlight ticket later past ∧
      .call (.flush (.ready (.ok ()))) ∈ later
  | .call (.close _) => Open past ∧ Settled past
  | .returned .pending => ∃ call, past.getLast? = some (.call call) ∧ call.isPending = true
  | .returned (.ready _) => True
  | .resumed _ _ => True

/-- Everything that happened was such, after its past. -/
def Throughout (such : List (Happening V S ε) → Happening V S ε → Prop)
    (history : List (Happening V S ε)) : Prop :=
  ∀ past happening later, history = past ++ happening :: later → such past happening

/-- Everything was allowed when it happened. -/
def Orderly (history : List (Happening V S ε)) : Prop := Throughout Allowed history

/-! ### What does not matter -/

theorem dispatchedIn_append (past later : List (Happening V S ε)) :
    dispatchedIn (past ++ later) = dispatchedIn past ++ dispatchedIn later :=
  List.filterMap_append

theorem Settled.append {past later : List (Happening V S ε)} (hpast : Settled past)
    (hlater : Settled later) : Settled (past ++ later) := by
  induction past with
  | nil => exact hlater
  | cons happening past ih =>
    refine ⟨fun submission hsubmission ↦ ?_, ih hpast.2⟩
    obtain ⟨answer, hreply⟩ := hpast.1 submission hsubmission
    exact ⟨answer, List.mem_append_left later hreply⟩

theorem settled_of_dispatchedIn {past : List (Happening V S ε)} (hpast : dispatchedIn past = []) :
    Settled past := by
  induction past with
  | nil => trivial
  | cons happening past ih =>
    rcases hhappening : happening.dispatched? with _ | submission
    · refine ⟨by simp [hhappening], ih ?_⟩
      simpa [dispatchedIn, hhappening] using hpast
    · simp [dispatchedIn, hhappening] at hpast

/-- Something that leaves the submission in flight as it is. -/
structure Happening.Silent (happening : Happening V S ε) : Prop where
  dispatched : happening.dispatched? = none
  unanswered : ∀ answer, happening = .call (.reply answer) → answer = .pending

/-- Something that leaves the submission in flight as it is, and the run on its way. -/
structure Happening.Idle (happening : Happening V S ε) : Prop where
  dispatched : happening.dispatched? = none
  goesOn : ¬ happening.Ends
  unanswered : ∀ answer, happening = .call (.reply answer) → answer = .pending

theorem Happening.Idle.silent {happening : Happening V S ε} (hidle : happening.Idle) :
    happening.Silent :=
  ⟨hidle.dispatched, hidle.unanswered⟩

theorem idle_returned {outcome : Poll (Option (Item V ε))}
    (hgoesOn : ¬ (Happening.returned (S := S) outcome).Ends) :
    (Happening.returned (S := S) outcome).Idle :=
  ⟨rfl, hgoesOn, by simp⟩

theorem idle_resumed (step : S) (value : Payload V) :
    (Happening.resumed (ε := ε) step value).Idle :=
  ⟨rfl, id, by simp⟩

section Append

variable {past later : List (Happening V S ε)} {happening : Happening V S ε}

theorem Open.append (hpast : Open past) (hgoesOn : ¬ happening.Ends) :
    Open (past ++ [happening]) := by
  intro other hother
  rcases List.mem_append.mp hother with hother | hother
  · exact hpast other hother
  · rwa [List.mem_singleton.mp hother]

theorem dispatchedIn_append_none (hnone : happening.dispatched? = none) :
    dispatchedIn (past ++ [happening]) = dispatchedIn past := by
  simp [dispatchedIn, hnone]

theorem Settled.append_none (hpast : Settled past) (hnone : happening.dispatched? = none) :
    Settled (past ++ [happening]) :=
  hpast.append (settled_of_dispatchedIn (by simp [dispatchedIn, hnone]))

theorem InFlight.append {ticket : Ticket} (hpast : InFlight ticket later past)
    (hsilent : happening.Silent) :
    InFlight ticket (later ++ [happening]) (past ++ [happening]) := by
  obtain ⟨before, submission, rfl, hticket, hbefore, hlater, hunanswered⟩ := hpast
  refine ⟨before, submission, by simp, hticket, hbefore, ?_, ?_⟩
  · rw [dispatchedIn_append_none hsilent.dispatched, hlater]
  · intro answer hanswer
    rcases List.mem_append.mp hanswer with hanswer | hanswer
    · exact hunanswered answer hanswer
    · exact hsilent.unanswered answer (List.mem_singleton.mp hanswer).symm

/-- The reply under its ticket settles the submission in flight. -/
theorem InFlight.settled {ticket : Ticket} {answer : Answer (Payload V)}
    (hpast : InFlight ticket later past) :
    Settled (past ++ [.call (.reply (.ready (.ok ⟨ticket, answer⟩)))]) := by
  obtain ⟨before, submission, rfl, rfl, hbefore, hlater, -⟩ := hpast
  rw [List.append_assoc, List.cons_append]
  refine hbefore.append ⟨?_, ?_⟩
  · rintro _ ⟨⟩
    exact ⟨answer, by simp⟩
  · refine settled_of_dispatchedIn ?_
    rw [dispatchedIn_append_none rfl, hlater]

theorem Throughout.append {such : List (Happening V S ε) → Happening V S ε → Prop}
    (hpast : Throughout such past) (hsuch : such past happening) :
    Throughout such (past ++ [happening]) := by
  intro before other after heq
  rcases after.eq_nil_or_concat with rfl | ⟨after, last, rfl⟩
  · obtain ⟨rfl, hlast⟩ := List.append_inj' heq rfl
    rw [List.singleton_inj.mp hlast] at hsuch
    exact hsuch
  · rw [List.concat_eq_append, ← List.cons_append, ← List.append_assoc] at heq
    obtain ⟨rfl, -⟩ := List.append_inj' heq rfl
    exact hpast before other after rfl

/-- What was such all through a history was such in its past. -/
theorem Throughout.of_append {such : List (Happening V S ε) → Happening V S ε → Prop}
    (hhistory : Throughout such (past ++ later)) : Throughout such past :=
  fun before other after heq ↦ hhistory before other (after ++ later) (by simp [heq])

theorem Orderly.append (hpast : Orderly past) (hallowed : Allowed past happening) :
    Orderly (past ++ [happening]) :=
  Throughout.append hpast hallowed

/-- In an orderly history, tickets count up from zero. -/
theorem Orderly.tickets (horderly : Orderly past) :
    (dispatchedIn past).map (·.ticket.number) = List.range (dispatchedIn past).length := by
  induction past using List.reverseRecOn with
  | nil => rfl
  | append_singleton past happening ih =>
    have hallowed : Allowed past happening := horderly past happening [] rfl
    rcases hdispatched : happening.dispatched? with _ | submission
    · rw [dispatchedIn_append_none hdispatched]
      exact ih horderly.of_append
    · obtain ⟨answer, rfl⟩ : ∃ answer, happening = .call (.dispatch submission answer) := by
        rcases happening with (_ | _ | _ | _ | _) | _ | _ <;>
          simp_all [Happening.dispatched?]
      have hsingle : dispatchedIn [Happening.call (S := S) (FlowCall.dispatch submission answer)] =
          [submission] := rfl
      rw [dispatchedIn_append, hsingle, List.map_append, ih horderly.of_append, List.length_append,
        List.length_singleton, List.range_succ]
      simp [hallowed.2.2.1]

end Append

/-! ### Where a run stands -/

/-- A run that is not over stands in its history where its submission in flight says. -/
def Run.Stands (run : Run V S) (past : List (Happening V S ε)) : Prop :=
  run.finished = true ∨ Open past ∧
    match run.flight with
    | none => Settled past ∧ (dispatchedIn past).length = run.submitted
    | some ⟨ticket, .dispatch submission, _⟩ =>
      Settled past ∧ submission.ticket = ticket ∧ ticket.number = (dispatchedIn past).length ∧
        run.submitted = (dispatchedIn past).length + 1
    | some ⟨ticket, .flush, _⟩ =>
      (dispatchedIn past).length = run.submitted ∧ ∃ later, InFlight ticket later past
    | some ⟨ticket, .await, _⟩ =>
      (dispatchedIn past).length = run.submitted ∧
        ∃ later, InFlight ticket later past ∧ .call (.flush (.ready (.ok ()))) ∈ later

theorem Run.Stands.append {run : Run V S} {past : List (Happening V S ε)}
    {happening : Happening V S ε} (hstands : run.Stands past) (hidle : happening.Idle) :
    run.Stands (past ++ [happening]) := by
  rcases hstands with hfinished | ⟨hopen, hstands⟩
  · exact Or.inl hfinished
  · refine Or.inr ⟨hopen.append hidle.goesOn, ?_⟩
    rcases hflight : run.flight with _ | ⟨ticket, stage, chain⟩ <;> rw [hflight] at hstands
    · rw [dispatchedIn_append_none hidle.dispatched]
      exact ⟨hstands.1.append_none hidle.dispatched, hstands.2⟩
    · cases stage with
      | dispatch submission =>
        simp only [dispatchedIn_append_none hidle.dispatched]
        exact ⟨hstands.1.append_none hidle.dispatched, hstands.2⟩
      | flush =>
        simp only [dispatchedIn_append_none hidle.dispatched]
        obtain ⟨hcount, later, hlater⟩ := hstands
        exact ⟨hcount, _, hlater.append hidle.silent⟩
      | await =>
        simp only [dispatchedIn_append_none hidle.dispatched]
        obtain ⟨hcount, later, hlater, hflushed⟩ := hstands
        exact ⟨hcount, _, hlater.append hidle.silent, List.mem_append_left _ hflushed⟩

namespace Course

/-- A course whose history is in order, and whose run stands in it. -/
structure Sound (c : Course V S σ ε) : Prop where
  orderly : Orderly c.history
  stands : c.run.Stands c.history

section Sound

variable {c : Course V S σ ε}

/-- Something that leaves the submission in flight as it is leaves a course sound. -/
theorem Sound.append (hc : c.Sound) {happening : Happening V S ε} (hidle : happening.Idle)
    (hallowed : Allowed c.history happening) (state : σ) :
    Sound ⟨c.run, state, c.history ++ [happening]⟩ :=
  ⟨hc.orderly.append hallowed, hc.stands.append hidle⟩

/-- Tasks do not matter. -/
theorem Sound.tasks (hc : c.Sound) (tasks : List (Task V S)) :
    Sound { c with run := { c.run with tasks } } :=
  ⟨hc.orderly, hc.stands⟩

theorem Sound.returning (hc : c.Sound) {outcome : Poll (Option (Item V ε))}
    (hgoesOn : ¬ (Happening.returned (S := S) outcome).Ends)
    (hallowed : Allowed c.history (.returned outcome)) : (c.returning outcome).Sound :=
  hc.append (idle_returned hgoesOn) hallowed c.state

theorem Sound.pending (hc : c.Sound) {call : FlowCall V ε}
    (hallowed : Allowed c.history (.call call)) (hpending : call.isPending = true)
    (hidle : (Happening.call (S := S) call).Idle) (state : σ) :
    ((called call state c).returning .pending).Sound := by
  refine (hc.append hidle hallowed state).returning id ?_
  exact ⟨call, List.getLast?_concat, hpending⟩

/-- A run that breaks stands anywhere. -/
theorem sound_broken (hc : Orderly c.history) (error : RunError ε) : (c.broken error).Sound :=
  ⟨hc.append trivial, Or.inl rfl⟩

variable [Resumes V S]

theorem Sound.handed (hc : c.Sound) (value : Payload V) (chain : List S) :
    (c.handed value chain).Sound := by
  cases chain with
  | nil =>
    refine hc.returning ?_ ?_
    · exact id
    · trivial
  | cons step chain => exact (hc.tasks _).append (idle_resumed step value) trivial c.state

theorem Sound.landed (hc : c.Sound) (ticket : Ticket) (chain : List S)
    (answer : Answer (Payload V)) : (c.landed ticket chain answer).Sound := by
  cases answer with
  | success value => exact hc.handed value chain
  | filtered => exact hc
  | failure cause =>
    refine hc.returning ?_ ?_
    · simp [Happening.Ends, RunError.isTerminal]
    · trivial

end Sound

/-! ### Stages -/

section Stages

variable {tasks : List (Task V S)} {chain : List S} {k : ℕ} {s : σ}
  {h : List (Happening V S ε)} {ticket : Ticket}

section Dispatch

variable {submission : Submission V}
  (hc : Sound ⟨⟨tasks, some ⟨ticket, .dispatch submission, chain⟩, k, false⟩, s, h⟩)
include hc

theorem Sound.allowed_ready (answer : Poll (Except ε Unit)) :
    Allowed h (.call (.ready answer)) := by
  obtain ⟨hopen, hsettled, -⟩ := hc.stands.resolve_left nofun
  exact ⟨hopen, hsettled⟩

theorem Sound.allowed_dispatch (answer : Except ε Unit) :
    Allowed (h ++ [.call (.ready (.ready (.ok ())))]) (.call (.dispatch submission answer)) := by
  obtain ⟨hopen, hsettled, rfl, hnumber, -⟩ := hc.stands.resolve_left nofun
  refine ⟨hopen.append id, hsettled.append_none rfl, ?_, List.getLast?_concat⟩
  rwa [dispatchedIn_append_none rfl]

/-- A run whose submission was taken stands where it flushes its flow. -/
theorem Sound.dispatched (s' : σ) :
    Sound ⟨⟨tasks, some ⟨ticket, .flush, chain⟩, k, false⟩, s',
      h ++ [.call (.ready (.ready (.ok ())))] ++ [.call (.dispatch submission (.ok ()))]⟩ := by
  refine ⟨(hc.orderly.append (hc.allowed_ready _)).append (hc.allowed_dispatch _), ?_⟩
  obtain ⟨hopen, hsettled, rfl, -, hcount⟩ := hc.stands.resolve_left nofun
  refine Or.inr ⟨(hopen.append id).append id, ?_, [], ?_⟩
  · show (dispatchedIn (h ++ [_] ++ [_])).length = k
    rw [dispatchedIn_append, dispatchedIn_append_none rfl, List.length_append]
    exact hcount.symm
  · exact ⟨_, submission, rfl, rfl, hsettled.append_none rfl, rfl, by simp⟩

end Dispatch

section Flush

variable (hc : Sound ⟨⟨tasks, some ⟨ticket, .flush, chain⟩, k, false⟩, s, h⟩)
include hc

theorem Sound.allowed_flush (answer : Poll (Except ε Unit)) :
    Allowed h (.call (.flush answer)) := by
  obtain ⟨hopen, -, later, hlater⟩ := hc.stands.resolve_left nofun
  exact ⟨hopen, ticket, later, hlater⟩

/-- A run that has flushed its flow stands where it awaits the reply. -/
theorem Sound.flushed (s' : σ) :
    Sound ⟨⟨tasks, some ⟨ticket, .await, chain⟩, k, false⟩, s',
      h ++ [.call (.flush (.ready (.ok ())))]⟩ := by
  obtain ⟨hopen, hcount, later, hlater⟩ := hc.stands.resolve_left nofun
  refine ⟨hc.orderly.append (hc.allowed_flush _), Or.inr ⟨hopen.append id, ?_, ?_⟩⟩
  · exact (congrArg List.length (dispatchedIn_append_none rfl)).trans hcount
  · exact ⟨_, hlater.append ⟨rfl, by simp⟩, by simp⟩

end Flush

section Await

variable (hc : Sound ⟨⟨tasks, some ⟨ticket, .await, chain⟩, k, false⟩, s, h⟩)
include hc

theorem Sound.allowed_reply (answer : Poll (Except ε (Reply V))) :
    Allowed h (.call (.reply answer)) := by
  obtain ⟨hopen, -, later, hlater, hflushed⟩ := hc.stands.resolve_left nofun
  exact ⟨hopen, ticket, later, hlater, hflushed⟩

/-- A run that has its reply stands where nothing is in flight. -/
theorem Sound.replied (answer : Answer (Payload V)) (s' : σ) :
    Sound ⟨⟨tasks, none, k, false⟩, s',
      h ++ [.call (.reply (.ready (.ok ⟨ticket, answer⟩)))]⟩ := by
  obtain ⟨hopen, hcount, later, hlater, -⟩ := hc.stands.resolve_left nofun
  refine ⟨hc.orderly.append (hc.allowed_reply _), Or.inr ⟨hopen.append id, hlater.settled, ?_⟩⟩
  exact (congrArg List.length (dispatchedIn_append_none rfl)).trans hcount

end Await

theorem Sound.allowed_close (hc : Sound ⟨⟨tasks, none, k, false⟩, s, h⟩)
    (answer : Poll (Except ε Unit)) : Allowed h (.call (.close answer)) := by
  obtain ⟨hopen, hsettled, -⟩ := hc.stands.resolve_left nofun
  exact ⟨hopen, hsettled⟩

end Stages

/-! ### Moves -/

section Moves

variable [Resumes V S] {flow : Flow V σ ε} {tasks : List (Task V S)} {chain : List S} {k : ℕ}
  {s : σ} {h : List (Happening V S ε)} {ticket : Ticket}

theorem Sound.next_await
    (hc : Sound ⟨⟨tasks, some ⟨ticket, .await, chain⟩, k, false⟩, s, h⟩) :
    (next flow ⟨⟨tasks, some ⟨ticket, .await, chain⟩, k, false⟩, s, h⟩).Sound := by
  rw [Course.next_await]
  rcases flow.pollReply s with ⟨_ | e | reply, s'⟩
  · exact hc.pending (hc.allowed_reply _) rfl ⟨rfl, id, by simp⟩ s'
  · exact sound_broken (hc.orderly.append (hc.allowed_reply _)) _
  · by_cases hticket : reply.ticket = ticket
    · subst hticket
      simp only [if_true]
      exact (hc.replied reply.answer s').landed _ _ _
    · simp only [if_neg hticket]
      exact sound_broken (hc.orderly.append (hc.allowed_reply _)) _

theorem Sound.next_flush
    (hc : Sound ⟨⟨tasks, some ⟨ticket, .flush, chain⟩, k, false⟩, s, h⟩) :
    (next flow ⟨⟨tasks, some ⟨ticket, .flush, chain⟩, k, false⟩, s, h⟩).Sound := by
  rw [Course.next_flush]
  rcases flow.pollFlush s with ⟨_ | e | _, s'⟩
  · exact hc.pending (hc.allowed_flush _) rfl ⟨rfl, id, by simp⟩ s'
  · exact sound_broken (hc.orderly.append (hc.allowed_flush _)) _
  · exact (hc.flushed s').next_await

theorem Sound.next_dispatch {submission : Submission V}
    (hc : Sound ⟨⟨tasks, some ⟨ticket, .dispatch submission, chain⟩, k, false⟩, s, h⟩) :
    (next flow ⟨⟨tasks, some ⟨ticket, .dispatch submission, chain⟩, k, false⟩, s, h⟩).Sound := by
  rw [Course.next_dispatch]
  rcases flow.pollReady s with ⟨_ | e | _, s'⟩
  · exact hc.pending (hc.allowed_ready _) rfl ⟨rfl, id, by simp⟩ s'
  · exact sound_broken (hc.orderly.append (hc.allowed_ready _)) _
  · rcases hstart : flow.startDispatch submission s' with ⟨e | _, s''⟩
    · simp only [hstart]
      refine sound_broken ?_ _
      exact (hc.orderly.append (hc.allowed_ready _)).append (hc.allowed_dispatch _)
    · simp only [hstart]
      exact (hc.dispatched s'').next_flush

theorem Sound.next_close (hc : Sound ⟨⟨[], none, k, false⟩, s, h⟩) :
    (next flow ⟨⟨[], none, k, false⟩, s, h⟩).Sound := by
  rw [Course.next_close]
  rcases flow.pollClose s with ⟨_ | e | _, s'⟩
  · exact hc.pending (hc.allowed_close _) rfl ⟨rfl, id, by simp⟩ s'
  · exact sound_broken (hc.orderly.append (hc.allowed_close _)) _
  · exact ⟨(hc.orderly.append (hc.allowed_close _)).append trivial, Or.inl rfl⟩

/-- Every move keeps a course sound. -/
theorem Sound.next {c : Course V S σ ε} (hc : c.Sound) (flow : Flow V σ ε) :
    (c.next flow).Sound := by
  obtain ⟨run, s, h⟩ := c
  cases run using Run.step_cases with
  | ended =>
    rw [next_finished]
    exact ⟨hc.orderly.append trivial, Or.inl rfl⟩
  | closing => exact hc.next_close
  | undertaking plan chain rest =>
    have hrest := hc.tasks rest
    cases plan with
    | done value =>
      rw [next_done]
      exact hrest.handed value chain
    | empty =>
      rw [next_empty]
      exact hrest
    | submit request =>
      rw [next_submit]
      obtain ⟨hopen, hsettled, hcount⟩ := hc.stands.resolve_left nofun
      refine ⟨hc.orderly, Or.inr ⟨hopen, hsettled, rfl, hcount.symm, ?_⟩⟩
      exact congrArg (· + 1) hcount.symm
    | sequence first steps =>
      rw [next_sequence]
      exact hc.tasks _
    | concat parts =>
      rw [next_concat]
      exact hc.tasks _
    | mistyped =>
      rw [next_mistyped]
      exact sound_broken hc.orderly _
  | driving flight =>
    obtain ⟨ticket, stage, chain⟩ := flight
    cases stage with
    | dispatch submission => exact hc.next_dispatch
    | flush => exact hc.next_flush
    | await => exact hc.next_await

end Moves

theorem sound_after [Resumes V S] (flow : Flow V σ ε) (plan : Plan V S) (s : σ) (n : ℕ) :
    (after flow plan s n).Sound := by
  refine after_induction ?_ (fun c hc ↦ hc.next flow) n
  refine ⟨fun past happening later heq ↦ ?_, Or.inr ⟨?_, trivial, rfl⟩⟩
  · simp [start] at heq
  · intro happening hmem
    simp [start] at hmem

end Course

/-- Driving an exchange never closes the flow. -/
theorem Stage.close_notMem_calls (flow : Flow V σ ε) (stage : Stage V) (s : σ)
    (answer : Poll (Except ε Unit)) : .close answer ∉ stage.calls flow s := by
  have hawait : ∀ s, .close answer ∉ calls flow .await s := by
    intro s
    rcases hreply : flow.pollReply s with ⟨_ | _ | _, s'⟩ <;>
      simp [calls, poll, pollAwait, Flow.recorded_pollReply, hreply]
  have hflush : ∀ s, .close answer ∉ calls flow .flush s := by
    intro s
    rcases hflush : flow.pollFlush s with ⟨_ | _ | _, s'⟩
    · simp [calls, poll, pollFlush, Flow.recorded_pollFlush, hflush]
    · simp [calls, poll, pollFlush, Flow.recorded_pollFlush, hflush]
    · simpa [calls_flush hflush] using hawait s'
  cases stage with
  | await => exact hawait s
  | flush => exact hflush s
  | dispatch submission =>
    rcases hready : flow.pollReady s with ⟨_ | _ | _, s'⟩
    · simp [calls, poll, pollDispatch, Flow.recorded_pollReady, hready]
    · simp [calls, poll, pollDispatch, Flow.recorded_pollReady, hready]
    · rcases hstart : flow.startDispatch submission s' with ⟨_ | _, s''⟩
      · simp [calls, poll, pollDispatch, Flow.recorded_pollReady, Flow.recorded_startDispatch,
          hready, hstart]
      · simpa [calls_dispatch hready hstart] using hflush s''

/-- Only a run with nothing left asks for its flow to be closed. -/
theorem Run.nothing_left_of_close [Resumes V S] {flow : Flow V σ ε} {run : Run V S} {s : σ}
    {answer : Poll (Except ε Unit)} (hclose : .close answer ∈ run.calls flow s) :
    run.tasks = [] ∧ run.flight = none := by
  cases run using step_cases with
  | ended => simp [calls, step] at hclose
  | closing => exact ⟨rfl, rfl⟩
  | undertaking => simp [calls, step] at hclose
  | driving flight =>
    rw [calls_flight] at hclose
    exact absurd hclose (flight.stage.close_notMem_calls flow s answer)

/-- Whatever the flow of a run answers, everything in the history is allowed after its past, and the
flow is asked to close only where nothing is left of the plan. -/
theorem Course.orderly_after [Resumes V S] (flow : Flow V σ ε) (plan : Plan V S) (s : σ) (n : ℕ) :
    Orderly (after flow plan s n).history ∧
      ∀ answer, .close answer ∈ (after flow plan s n).run.calls flow (after flow plan s n).state →
        (after flow plan s n).run.tasks = [] ∧ (after flow plan s n).run.flight = none :=
  ⟨(sound_after flow plan s n).orderly, fun _ hclose ↦ Run.nothing_left_of_close hclose⟩

/-- A flow that is slow to close, and then fails to. -/
theorem Course.orderly_after_of_unclosable :
    let service : TimedService values ℕ := fun _ _ n ↦ (.ok (.ok [n.toUInt8]), n + 1)
    let flow := EventLoop.flow service .caller .script
    let loop : EventLoop values ℕ := .start 0 fun call ↦
      if call = .close then [.wait, .fail "busy"] else [.wait]
    let request : Request (Payload values) :=
      { route := ⟨.get, "/"⟩, decode := fun _ ↦ .ok none, label := "Get" }
    let plan : Erased values := .concat [.empty, .submit request]
    Orderly (after flow plan loop 9).history ∧
      .close .pending ∈ (after flow plan loop 7).run.calls flow (after flow plan loop 7).state ∧
      (after flow plan loop 7).run.tasks = [] ∧ (after flow plan loop 7).run.flight = none := by
  intro service flow loop request plan
  have hclose : .close .pending ∈
      (after flow plan loop 7).run.calls flow (after flow plan loop 7).state := by
    cbv
    exact List.mem_singleton.mpr rfl
  exact ⟨(orderly_after flow plan loop 9).1, hclose, (orderly_after flow plan loop 7).2 _ hclose⟩

end Errand
