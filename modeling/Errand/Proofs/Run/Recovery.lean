import Errand.Proofs.Program.Typing
import Errand.Proofs.Run.Discipline

/-!
Values are recovered as what they were erased from. In the run of a program built with the
operators, every value that a continuation is called with is of the type that it takes, and every
value returned is of the type of the program (`Course.recovered_after`). This is so over any flow
whose replies to submissions were made for these (`Genuine`).

A run is `WellTyped` if everything that is left to do in it fits: the values of a task, or of the
submission in flight, are those that the first step of its chain takes, those of each step are
those that the next one takes, and the last values are those of the program.
-/

set_option autoImplicit false

namespace Errand

variable {V : ValueTypes} {S σ ε α : Type}

/-- A reply under the ticket of the last submission is one to this submission. -/
def Genuine (past : List (Happening V S ε)) : Happening V S ε → Prop
  | .call (.reply (.ready (.ok reply))) =>
    ∀ submission, (dispatchedIn past).getLast? = some submission →
      reply.ticket = submission.ticket → ∃ outcome, reply = submission.settle outcome
  | _ => True

/-- A continuation is called with a value that it takes, and a value returned is such. -/
def Happening.WellTyped (kinds : Kinds V S) (out : Payload V → Prop) : Happening V S ε → Prop
  | .resumed step value => ∃ into between, kinds step into between ∧ into value
  | .returned (.ready (some (.ok value))) => out value
  | .returned (.ready (some (.error .mistyped))) => False
  | _ => True

/-- Values of this sort go through the chain, and come out of it as others. -/
def Chained (kinds : Kinds V S) (into : Payload V → Prop) (chain : List S)
    (out : Payload V → Prop) : Prop :=
  Passes kinds into chain.reverse out

section Chained

variable {kinds : Kinds V S} {into out : Payload V → Prop}

theorem passes_append {later earlier : List S} :
    Passes kinds into (later ++ earlier) out ↔
      ∃ between, Passes kinds into earlier between ∧ Passes kinds between later out := by
  induction later generalizing out with
  | nil => simp [Passes]
  | cons step later ih =>
    simp only [List.cons_append, Passes, ih]
    constructor
    · rintro ⟨between, ⟨first, hearlier, hlater⟩, hstep⟩
      exact ⟨first, hearlier, between, hlater, hstep⟩
    · rintro ⟨first, hearlier, between, hlater, hstep⟩
      exact ⟨between, ⟨first, hearlier, hlater⟩, hstep⟩

theorem chained_nil : Chained kinds into [] out ↔ into = out := Iff.rfl

theorem chained_cons {step : S} {chain : List S} :
    Chained kinds into (step :: chain) out ↔
      ∃ between, kinds step into between ∧ Chained kinds between chain out := by
  rw [Chained, List.reverse_cons, passes_append]
  simp [Passes, Chained]

/-- The steps of a sequence come before its chain, the one added first in front. -/
theorem chained_append {steps chain : List S} {between : Payload V → Prop}
    (hsteps : Passes kinds into steps between) (hchain : Chained kinds between chain out) :
    Chained kinds into (steps.reverse ++ chain) out := by
  rw [Chained, List.reverse_append, List.reverse_reverse, passes_append]
  exact ⟨between, hsteps, hchain⟩

end Chained

theorem fitsAll_iff {kinds : Kinds V S} {out : Payload V → Prop} {parts : List (Plan V S)} :
    Plan.FitsAll kinds parts out ↔ ∀ part ∈ parts, part.Fits kinds out := by
  induction parts with
  | nil => simp [Plan.FitsAll]
  | cons part parts ih => rw [Plan.FitsAll, ih, List.forall_mem_cons]

/-! ### Runs whose values fit -/

namespace Course

/-- What is in flight, with this before it: a submission that is yet to be dispatched, or the last
one that was. -/
def Aloft (past : List (Happening V S ε)) (submission : Submission V) : Stage V → Prop
  | .dispatch other => other = submission
  | .flush | .await => (dispatchedIn past).getLast? = some submission

/-- Everything left to do fits, and everything that has happened was as it should be. -/
structure WellTyped (kinds : Kinds V S) (out : Payload V → Prop) (c : Course V S σ ε) : Prop where
  tasks : ∀ task ∈ c.run.tasks,
    ∃ into, task.plan.Fits kinds into ∧ Chained kinds into task.chain out
  flight : ∀ flight, c.run.flight = some flight → ∃ submission into,
    submission.ticket = flight.ticket ∧ Aloft c.history submission flight.stage ∧
      (Plan.submit submission.request).Fits kinds into ∧ Chained kinds into flight.chain out
  happened : ∀ happening ∈ c.history, happening.WellTyped kinds out

theorem Aloft.append {past : List (Happening V S ε)} {submission : Submission V} {stage : Stage V}
    (hpast : Aloft past submission stage) {happening : Happening V S ε}
    (hnone : happening.dispatched? = none) : Aloft (past ++ [happening]) submission stage := by
  cases stage with
  | dispatch other => exact hpast
  | flush => simpa [Aloft, dispatchedIn_append_none hnone] using hpast
  | await => simpa [Aloft, dispatchedIn_append_none hnone] using hpast

theorem aloft_dispatched (past : List (Happening V S ε)) (submission : Submission V) :
    Aloft (past ++ [.call (.dispatch submission (.ok ()))]) submission .flush := by
  rw [Aloft, dispatchedIn_append]
  exact List.getLast?_concat

theorem history_landed [Resumes V S] (c : Course V S σ ε) (ticket : Ticket) (chain : List S)
    (answer : Answer (Payload V)) : c.history <+: (c.landed ticket chain answer).history := by
  cases answer with
  | success value => cases chain <;> exact List.prefix_append _ _
  | filtered => exact List.prefix_rfl
  | failure cause => exact List.prefix_append _ _

namespace WellTyped

variable {kinds : Kinds V S} {out : Payload V → Prop} {c : Course V S σ ε}

theorem append (hc : c.WellTyped kinds out) {happening : Happening V S ε}
    (hnone : happening.dispatched? = none) (hhappening : happening.WellTyped kinds out)
    (state : σ) : WellTyped kinds out ⟨c.run, state, c.history ++ [happening]⟩ where
  tasks := hc.tasks
  flight flight hflight := by
    obtain ⟨submission, into, hticket, haloft, hfits⟩ := hc.flight flight hflight
    exact ⟨submission, into, hticket, haloft.append hnone, hfits⟩
  happened := List.forall_mem_append.mpr ⟨hc.happened, List.forall_mem_singleton.mpr hhappening⟩

theorem called (hc : c.WellTyped kinds out) {call : FlowCall V ε}
    (hnone : (Happening.call (S := S) call).dispatched? = none) (state : σ) :
    (called call state c).WellTyped kinds out :=
  hc.append hnone (by cases call <;> trivial) state

theorem returning (hc : c.WellTyped kinds out) {outcome : Poll (Option (Item V ε))}
    (hreturned : (Happening.returned (S := S) outcome).WellTyped kinds out) :
    (c.returning outcome).WellTyped kinds out :=
  hc.append rfl hreturned c.state

/-- A run that breaks has nothing left to do. -/
theorem broken (hhistory : ∀ happening ∈ c.history, happening.WellTyped kinds out)
    {error : RunError ε} (herror : error ≠ .mistyped) : (c.broken error).WellTyped kinds out where
  tasks := nofun
  flight := nofun
  happened := List.forall_mem_append.mpr
    ⟨hhistory, List.forall_mem_singleton.mpr (by cases error <;> trivial)⟩

variable [Resumes V S]

theorem handed (hkinds : kinds.Sound) (hc : c.WellTyped kinds out) {into : Payload V → Prop}
    {value : Payload V} {chain : List S} (hvalue : into value)
    (hchain : Chained kinds into chain out) :
    (c.handed value chain).WellTyped kinds out := by
  cases chain with
  | nil => exact hc.returning (chained_nil.mp hchain ▸ hvalue)
  | cons step chain =>
    obtain ⟨between, hstep, hrest⟩ := chained_cons.mp hchain
    have htasks : WellTyped kinds out
        { c with run := { c.run with tasks := ⟨resume step value, chain⟩ :: c.run.tasks } } :=
      ⟨List.forall_mem_cons.mpr ⟨⟨between, hkinds step into between hstep value hvalue, hrest⟩,
        hc.tasks⟩, hc.flight, hc.happened⟩
    have hresumed : (Happening.resumed (ε := ε) step value).WellTyped kinds out :=
      ⟨into, between, hstep, hvalue⟩
    exact htasks.append rfl hresumed c.state

theorem landed (hkinds : kinds.Sound) (hc : c.WellTyped kinds out) {into : Payload V → Prop}
    {ticket : Ticket} {chain : List S} {answer : Answer (Payload V)}
    (hvalue : ∀ value, answer = .success value → into value)
    (hchain : Chained kinds into chain out) :
    (c.landed ticket chain answer).WellTyped kinds out := by
  cases answer with
  | success value => exact hc.handed hkinds (hvalue value rfl) hchain
  | filtered => exact hc
  | failure cause => exact hc.returning trivial

section Moves

variable (hkinds : kinds.Sound) {flow : Flow V σ ε} {tasks : List (Task V S)} {chain : List S}
  {k : ℕ} {s : σ} {h : List (Happening V S ε)} {ticket : Ticket}
include hkinds

theorem next_await
    (hc : WellTyped kinds out ⟨⟨tasks, some ⟨ticket, .await, chain⟩, k, false⟩, s, h⟩)
    (hgenuine : Throughout Genuine
      (next flow ⟨⟨tasks, some ⟨ticket, .await, chain⟩, k, false⟩, s, h⟩).history) :
    (next flow ⟨⟨tasks, some ⟨ticket, .await, chain⟩, k, false⟩, s, h⟩).WellTyped kinds out := by
  have hlanded : WellTyped kinds out ⟨⟨tasks, none, k, false⟩, s, h⟩ :=
    ⟨hc.tasks, nofun, hc.happened⟩
  rw [Course.next_await] at hgenuine ⊢
  rcases hreply : flow.pollReply s with ⟨_ | e | reply, s'⟩
  · exact (hc.called rfl s').returning trivial
  · exact broken (hlanded.called rfl s').happened nofun
  · by_cases hticket : reply.ticket = ticket
    · simp only [hreply, hticket, if_true] at hgenuine ⊢
      obtain ⟨submission, into, hown, haloft, hfits, hchain⟩ := hc.flight _ rfl
      refine (hlanded.called rfl s').landed hkinds (fun value hvalue ↦ ?_) hchain
      obtain ⟨later, hlater⟩ := history_landed (Course.called (.reply (.ready (.ok reply))) s'
        (⟨⟨tasks, none, k, false⟩, s, h⟩ : Course V S σ ε)) ticket chain reply.answer
      obtain ⟨outcome, rfl⟩ := hgenuine h _ later ((List.append_cons ..).trans hlater).symm
        submission haloft (hticket.trans hown.symm)
      obtain ⟨response, hresponse⟩ := Submission.settle_success hvalue
      exact hfits response value hresponse
    · simp only [if_neg hticket]
      exact broken (hlanded.called rfl s').happened nofun

theorem next_flush
    (hc : WellTyped kinds out ⟨⟨tasks, some ⟨ticket, .flush, chain⟩, k, false⟩, s, h⟩)
    (hgenuine : Throughout Genuine
      (next flow ⟨⟨tasks, some ⟨ticket, .flush, chain⟩, k, false⟩, s, h⟩).history) :
    (next flow ⟨⟨tasks, some ⟨ticket, .flush, chain⟩, k, false⟩, s, h⟩).WellTyped kinds out := by
  have hlanded : WellTyped kinds out ⟨⟨tasks, none, k, false⟩, s, h⟩ :=
    ⟨hc.tasks, nofun, hc.happened⟩
  have hflushed : WellTyped kinds out ⟨⟨tasks, some ⟨ticket, .await, chain⟩, k, false⟩, s, h⟩ := by
    obtain ⟨submission, into, hflight⟩ := hc.flight _ rfl
    exact ⟨hc.tasks, by rintro _ ⟨⟩; exact ⟨submission, into, hflight⟩, hc.happened⟩
  rw [Course.next_flush] at hgenuine ⊢
  rcases hflush : flow.pollFlush s with ⟨_ | e | _, s'⟩
  · exact (hc.called rfl s').returning trivial
  · exact broken (hlanded.called rfl s').happened nofun
  · rw [hflush] at hgenuine
    exact next_await hkinds (hflushed.called rfl s') hgenuine

theorem next_dispatch {submission : Submission V}
    (hc : WellTyped kinds out
      ⟨⟨tasks, some ⟨ticket, .dispatch submission, chain⟩, k, false⟩, s, h⟩)
    (hgenuine : Throughout Genuine
      (next flow ⟨⟨tasks, some ⟨ticket, .dispatch submission, chain⟩, k, false⟩, s, h⟩).history) :
    (next flow ⟨⟨tasks, some ⟨ticket, .dispatch submission, chain⟩, k, false⟩, s, h⟩).WellTyped
      kinds out := by
  have hlanded : WellTyped kinds out ⟨⟨tasks, none, k, false⟩, s, h⟩ :=
    ⟨hc.tasks, nofun, hc.happened⟩
  have hdispatched : ∀ happening ∈ h ++ [.call (.ready (.ready (.ok ())))],
      happening.WellTyped kinds out :=
    List.forall_mem_append.mpr ⟨hc.happened, List.forall_mem_singleton.mpr trivial⟩
  rw [Course.next_dispatch] at hgenuine ⊢
  rcases hready : flow.pollReady s with ⟨_ | e | _, s'⟩
  · exact (hc.called rfl s').returning trivial
  · exact broken (hlanded.called rfl s').happened nofun
  · rcases hstart : flow.startDispatch submission s' with ⟨e | _, s''⟩
    · simp only [hstart]
      refine broken (List.forall_mem_append.mpr ⟨hdispatched, ?_⟩) nofun
      exact List.forall_mem_singleton.mpr trivial
    · simp only [hready, hstart] at hgenuine ⊢
      refine next_flush hkinds ⟨hc.tasks, ?_, ?_⟩ hgenuine
      · rintro _ ⟨⟩
        obtain ⟨_, into, hticket, rfl, hfits⟩ := hc.flight _ rfl
        exact ⟨submission, into, hticket, aloft_dispatched _ _, hfits⟩
      · exact List.forall_mem_append.mpr ⟨hdispatched, List.forall_mem_singleton.mpr trivial⟩

theorem next (hc : c.WellTyped kinds out) (hgenuine : Throughout Genuine (c.next flow).history) :
    (c.next flow).WellTyped kinds out := by
  obtain ⟨run, s, h⟩ := c
  cases run using Run.step_cases with
  | ended =>
    rw [next_finished]
    exact hc.returning trivial
  | closing k =>
    have hover : WellTyped kinds out (⟨⟨[], none, k, true⟩, s, h⟩ : Course V S σ ε) :=
      ⟨nofun, nofun, hc.happened⟩
    rw [next_close]
    rcases flow.pollClose s with ⟨_ | e | _, s'⟩
    · exact (hc.called rfl s').returning trivial
    · exact broken (hc.called rfl s').happened nofun
    · exact (hover.called rfl s').returning trivial
  | undertaking plan chain rest k =>
    obtain ⟨⟨into, hfits, hchain⟩, hrest⟩ := List.forall_mem_cons.mp hc.tasks
    have hbelow : WellTyped kinds out ⟨⟨rest, none, k, false⟩, s, h⟩ := ⟨hrest, nofun, hc.happened⟩
    cases plan with
    | done value =>
      rw [next_done]
      exact hbelow.handed hkinds hfits hchain
    | empty =>
      rw [next_empty]
      exact hbelow
    | submit request =>
      rw [next_submit]
      refine ⟨hrest, ?_, hc.happened⟩
      rintro _ ⟨⟩
      exact ⟨⟨⟨k⟩, request⟩, into, rfl, rfl, hfits, hchain⟩
    | sequence first steps =>
      rw [next_sequence]
      obtain ⟨between, hfirst, hsteps⟩ := hfits
      exact ⟨List.forall_mem_cons.mpr ⟨⟨between, hfirst, chained_append hsteps hchain⟩, hrest⟩,
        nofun, hc.happened⟩
    | concat parts =>
      rw [next_concat]
      refine ⟨List.forall_mem_append.mpr ⟨List.forall_mem_map.mpr fun part hpart ↦ ?_, hrest⟩,
        nofun, hc.happened⟩
      exact ⟨into, fitsAll_iff.mp hfits part hpart, hchain⟩
    | mistyped => exact hfits.elim
  | driving flight =>
    obtain ⟨ticket, stage, chain⟩ := flight
    cases stage with
    | dispatch submission => exact hc.next_dispatch hkinds hgenuine
    | flush => exact hc.next_flush hkinds hgenuine
    | await => exact hc.next_await hkinds hgenuine

end Moves

end WellTyped

theorem wellTyped_after [Resumes V S] {kinds : Kinds V S} (hkinds : kinds.Sound)
    {plan : Plan V S} {out : Payload V → Prop} (hplan : plan.Fits kinds out) {flow : Flow V σ ε}
    {s : σ} {n : ℕ} (hgenuine : Throughout Genuine (after flow plan s n).history) :
    (after flow plan s n).WellTyped kinds out := by
  induction n with
  | zero =>
    exact ⟨List.forall_mem_singleton.mpr ⟨out, hplan, chained_nil.mpr rfl⟩, nofun, nofun⟩
  | succ n ih =>
    have hbefore : Throughout Genuine (after flow plan s n).history := by
      obtain ⟨later, hlater⟩ := history_after_mono flow plan s n.le_succ
      intro past happening between hpast
      refine hgenuine past happening (between ++ later) ?_
      rw [← hlater, hpast, List.append_assoc, List.cons_append]
    rw [after_succ] at hgenuine ⊢
    exact (ih hbefore).next hkinds hgenuine

/-- In the run of a program built with the operators, over a flow whose replies to submissions were
made for these, a continuation is only called with values of the type that it recovers, which it
recovers as what they were erased from; the values returned are of the type of the program, and are
recovered so; and no value is ever found to be of another type. -/
theorem recovered_after [Closures V S] [Carried V α] {p : Program V α S} (hp : p.Built)
    (flow : Flow V σ ε) (s : σ) (n : ℕ)
    (hgenuine : Throughout Genuine (after flow p.erase s n).history) :
    let history := (after flow p.erase s n).history
    (∀ step value, .resumed step value ∈ history →
        ∃ (β γ : Type) (_ : Carried V β) (_ : Carried V γ) (next : β → Program V γ S) (b : β),
          step = Program.stepWith V (fun b ↦ (next b).erase) ∧ value = Carried.erase b ∧
            Carried.recover value = some b) ∧
      (∀ value, .returned (.ready (some (.ok value))) ∈ history →
        ∃ a : α, value = Carried.erase a ∧ Carried.recover value = some a) ∧
      .returned (.ready (some (.error .mistyped))) ∉ history := by
  have hhappened := (wellTyped_after Program.builtKinds_sound hp.fits hgenuine).happened
  refine ⟨fun step value hresumed ↦ ?_, fun value hreturned ↦ ?_, fun hmistyped ↦
    hhappened _ hmistyped⟩
  · obtain ⟨_, _, ⟨β, γ, _, _, next, -, rfl, rfl, rfl⟩, b, rfl⟩ := hhappened _ hresumed
    exact ⟨β, γ, _, _, next, b, rfl, rfl, Carried.recover_erase b⟩
  · obtain ⟨a, rfl⟩ := hhappened _ hreturned
    exact ⟨a, rfl, Carried.recover_erase a⟩

/-- A request whose number is counted up, over a flow that answers every submission with seven. -/
theorem recovered_after_of_counting :
    let flow : Flow values (List (Submission values)) Unit :=
      { pollReady := fun queue ↦ (.ready (.ok ()), queue)
        startDispatch := fun submission queue ↦ (.ok (), queue ++ [submission])
        pollFlush := fun queue ↦ (.ready (.ok ()), queue)
        pollClose := fun queue ↦ (.ready (.ok ()), queue)
        pollReply := fun queue ↦
          match queue with
          | [] => (.pending, [])
          | submission :: queue => (.ready (.ok (submission.reply (.ok [7]))), queue) }
    let request : Request UInt8 :=
      { route := ⟨.get, "/"⟩, decode := fun response ↦ .ok response.body.head?, label := "Get" }
    let next (n : UInt8) : Program values UInt8 (Step values) := .done (n + 1)
    let p := (Program.submit request).flatMap next
    let history := (after flow p.erase [] 4).history
    (p.Built ∧ Throughout Genuine history ∧
        .returned (.ready (some (.ok (Carried.erase (8 : UInt8))))) ∈ history) ∧
      (∀ value, .returned (.ready (some (.ok value))) ∈ history →
        ∃ n : UInt8, value = Carried.erase n ∧ Carried.recover value = some n) ∧
      .returned (.ready (some (.error .mistyped))) ∉ history := by
  intro flow request next p history
  have hp : p.Built := (Program.built_submit request).flatMap fun n ↦ Program.built_done (n + 1)
  have hhistory : history =
      [] ++ [Happening.call (.ready (.ready (.ok ())))] ++
        [Happening.call (.dispatch ⟨⟨0⟩, request.mapResponse Carried.erase⟩ (.ok ()))] ++
        [Happening.call (.flush (.ready (.ok ())))] ++
        [Happening.call (.reply (.ready (.ok ⟨⟨0⟩, .success (Carried.erase (7 : UInt8))⟩)))] ++
        [Happening.resumed (Program.stepWith values fun n ↦ (next n).erase)
          (Carried.erase (7 : UInt8))] ++
        [Happening.returned (.ready (some (.ok (Carried.erase (8 : UInt8)))))] := rfl
  have hgenuine : Throughout Genuine history := by
    have hnone : Throughout Genuine ([] : List (Happening values (Step values) Unit)) :=
      fun past happening later hnil ↦ by simp at hnil
    rw [hhistory]
    refine .append (.append (.append (.append (.append (.append hnone ?ready) ?dispatch) ?flush)
      ?reply) ?resumed) ?returned
    case reply =>
      rintro submission ⟨⟩ -
      exact ⟨.ok (.ok [7]), rfl⟩
    all_goals trivial
  have hreturned : .returned (.ready (some (.ok (Carried.erase (8 : UInt8))))) ∈ history := by
    rw [hhistory]
    exact List.mem_append_right _ (List.mem_singleton.mpr rfl)
  have hrecovered := recovered_after hp flow [] 4 hgenuine
  exact ⟨⟨hp, hgenuine, hreturned⟩, hrecovered.2⟩

end Course

end Errand
