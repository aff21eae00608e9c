import Errand.Proofs.Run.Adequacy
import Errand.Proofs.Run.Breakdown

/-!
Flows that serve for as long as they do not lapse. What such a flow may answer is a relation between
a submission, its answer and the states of the service before and after (`Answering`). A run over it
is intact until it lapses, and its exchanges follow the relation (`Flow.Faithful.keeps`).

Where the relation is a function and no call is pending for ever, the run shows what the evaluation
of its plan shows, as far as either goes before the flow lapses (`Flow.Faithful.shown`,
`Flow.Faithful.shows_iff`): a flow that takes over as soon as the other lapses serves, and up to
there their runs are the same.
-/

set_option autoImplicit false

namespace Errand

variable {V : ValueTypes} {S σ ε ω α : Type}

/-- What may be answered to a submission with the service in one state, and in which state that
leaves the service. -/
abbrev Answering (V : ValueTypes) (ω : Type) := Submission V → ω → Answer (Payload V) → ω → Prop

/-- The exchanges may follow each other, the service being in the first state before them and in the
last one after. -/
def Told (answers : Answering V ω) : List (Submission V × Answer (Payload V)) → ω → ω → Prop
  | [], w, w' => w = w'
  | (submission, answer) :: later, w, w'' =>
    ∃ w', answers submission w answer w' ∧ Told answers later w' w''

theorem Told.concat {answers : Answering V ω} {exchanges : List (Submission V × Answer (Payload V))}
    {w w' w'' : ω} {submission : Submission V} {answer : Answer (Payload V)}
    (htold : Told answers exchanges w w') (hanswer : answers submission w' answer w'') :
    Told answers (exchanges ++ [(submission, answer)]) w w'' := by
  induction exchanges generalizing w with
  | nil =>
    obtain rfl : w = w' := htold
    exact ⟨w'', hanswer, rfl⟩
  | cons exchange exchanges ih =>
    obtain ⟨between, hfirst, hlater⟩ := htold
    exact ⟨between, hfirst, ih hlater⟩

/-! ### What happened, exchange by exchange -/

/-- The answer that has come. -/
def Happening.answer? : Happening V S ε → Option (Answer (Payload V))
  | .call (.reply (.ready (.ok reply))) => some reply.answer
  | _ => none

def answersIn (past : List (Happening V S ε)) : List (Answer (Payload V)) :=
  past.filterMap Happening.answer?

/-- The submissions that have been answered, with their answers. -/
def exchangesIn (past : List (Happening V S ε)) : List (Submission V × Answer (Payload V)) :=
  (dispatchedIn past).zip (answersIn past)

/-- What a flow is charged with. -/
inductive Charge (V : ValueTypes) where
  | idle
  | serving (submission : Submission V)
  | closed

/-- Whether a flow is charged so after the past. -/
def Charge.Fits (past : List (Happening V S ε)) : Charge V → Prop
  | .idle => Settled past ∧ (answersIn past).length = (dispatchedIn past).length
  | .serving submission =>
    (∃ later, InFlight submission.ticket later past) ∧
      ∃ before, dispatchedIn past = before ++ [submission] ∧
        (answersIn past).length = before.length
  | .closed =>
    Settled past ∧ (answersIn past).length = (dispatchedIn past).length ∧
      .call (.close (.ready (.ok ()))) ∈ past

section Fits

variable {past : List (Happening V S ε)} {happening : Happening V S ε}

theorem Happening.Silent.answer?_eq_none (hsilent : happening.Silent) :
    happening.answer? = none := by
  rcases happening with (_ | _ | _ | _ | answer) | _ | _
  case call.reply =>
    rw [hsilent.unanswered answer rfl]
    rfl
  all_goals rfl

theorem answersIn_append_none (hnone : happening.answer? = none) :
    answersIn (past ++ [happening]) = answersIn past := by
  simp [answersIn, hnone]

/-- A submission in flight has not been replied to. -/
theorem InFlight.not_settled {ticket : Ticket} {later : List (Happening V S ε)}
    (hpast : InFlight ticket later past) : ¬ Settled past := by
  obtain ⟨before, submission, rfl, -, -, -, hunanswered⟩ := hpast
  induction before with
  | nil =>
    intro hsettled
    obtain ⟨answer, hreply⟩ := hsettled.1 submission rfl
    cases hunanswered _ hreply
  | cons first before ih => exact fun hsettled ↦ ih hsettled.2

/-- Something that is neither a dispatch nor a reply leaves a flow charged as it is. -/
theorem Charge.Fits.append {charge : Charge V} (hfits : charge.Fits past)
    (hsilent : happening.Silent) : charge.Fits (past ++ [happening]) := by
  have hanswers : answersIn (past ++ [happening]) = answersIn past :=
    answersIn_append_none hsilent.answer?_eq_none
  have hdispatched : dispatchedIn (past ++ [happening]) = dispatchedIn past :=
    dispatchedIn_append_none hsilent.dispatched
  cases charge with
  | idle =>
    obtain ⟨hsettled, hlength⟩ := hfits
    exact ⟨hsettled.append_none hsilent.dispatched, by rw [hanswers, hdispatched, hlength]⟩
  | serving submission =>
    obtain ⟨⟨later, hflight⟩, before, hbefore, hlength⟩ := hfits
    exact ⟨⟨_, hflight.append hsilent⟩, before, by rw [hdispatched, hbefore],
      by rw [hanswers, hlength]⟩
  | closed =>
    obtain ⟨hsettled, hlength, hclose⟩ := hfits
    exact ⟨hsettled.append_none hsilent.dispatched, by rw [hanswers, hdispatched, hlength],
      List.mem_append_left _ hclose⟩

theorem exchangesIn_append_silent (hsilent : happening.Silent) :
    exchangesIn (past ++ [happening]) = exchangesIn past := by
  rw [exchangesIn, answersIn_append_none hsilent.answer?_eq_none,
    dispatchedIn_append_none hsilent.dispatched, exchangesIn]

/-- A flow that is charged with nothing may be charged with a submission. -/
theorem Charge.Fits.dispatched (hfits : Charge.idle.Fits past) (submission : Submission V) :
    (Charge.serving submission).Fits (past ++ [.call (.dispatch submission (.ok ()))]) := by
  obtain ⟨hsettled, hlength⟩ := hfits
  refine ⟨⟨[], past, submission, rfl, rfl, hsettled, rfl, by simp⟩, dispatchedIn past, ?_, ?_⟩
  · rw [dispatchedIn_append]
    rfl
  · rw [answersIn_append_none rfl, hlength]

/-- A submission dispatched is no exchange before it is answered. -/
theorem exchangesIn_dispatched (hlength : (answersIn past).length = (dispatchedIn past).length)
    (submission : Submission V) :
    exchangesIn (past ++ [.call (.dispatch submission (.ok ()))]) = exchangesIn past := by
  have hzip : (dispatchedIn past ++ [submission]).zip (answersIn past ++ []) =
      (dispatchedIn past).zip (answersIn past) ++ [submission].zip [] :=
    List.zip_append hlength.symm
  rw [List.append_nil, List.zip_nil_right, List.append_nil] at hzip
  rw [exchangesIn, answersIn_append_none rfl, dispatchedIn_append]
  exact hzip

/-- A reply under its ticket discharges the flow. -/
theorem Charge.Fits.replied {submission : Submission V}
    (hfits : (Charge.serving submission).Fits past) (answer : Answer (Payload V)) :
    Charge.idle.Fits (past ++ [.call (.reply (.ready (.ok ⟨submission.ticket, answer⟩)))]) := by
  obtain ⟨⟨later, hflight⟩, before, hbefore, hlength⟩ := hfits
  refine ⟨hflight.settled, ?_⟩
  rw [dispatchedIn_append_none rfl, hbefore]
  simp [answersIn, Happening.answer?, ← hlength]

theorem Charge.Fits.exchangesIn_replied {submission : Submission V}
    (hfits : (Charge.serving submission).Fits past) (reply : Reply V) :
    exchangesIn (past ++ [.call (.reply (.ready (.ok reply)))]) =
      exchangesIn past ++ [(submission, reply.answer)] := by
  obtain ⟨-, before, hbefore, hlength⟩ := hfits
  have hpast : exchangesIn past = before.zip (answersIn past) := by
    have hzip : (before ++ [submission]).zip (answersIn past ++ []) =
        before.zip (answersIn past) ++ [submission].zip [] :=
      List.zip_append hlength.symm
    rwa [List.append_nil, List.zip_nil_right, List.append_nil, ← hbefore] at hzip
  have hanswers : answersIn (past ++ [.call (.reply (.ready (.ok reply)))]) =
      answersIn past ++ [reply.answer] := by
    simp [answersIn, Happening.answer?]
  rw [hpast, exchangesIn, hanswers, dispatchedIn_append_none rfl, hbefore,
    List.zip_append hlength.symm]
  rfl

end Fits

/-! ### Nothing is called after the close -/

/-- Where a list that goes on after another has something first that the other has not. -/
theorem exists_of_append_cons_eq {x : α} {before past xs later : List α} (hx : x ∉ before)
    (heq : before ++ xs = past ++ x :: later) :
    ∃ between, past = before ++ between ∧ xs = between ++ x :: later := by
  rcases List.append_eq_append_iff.mp heq with ⟨between, rfl, hxs⟩ | ⟨between, rfl, hlater⟩
  · exact ⟨between, rfl, hxs⟩
  · rcases between with _ | ⟨first, between⟩
    · exact ⟨[], by simp, by simpa using hlater.symm⟩
    · obtain ⟨rfl, -⟩ := List.cons_eq_cons.mp hlater
      exact absurd (by simp) hx

namespace Course

variable [Resumes V S]

/-- A run that has something left does not close its flow. -/
theorem close_notMem_next {flow : Flow V σ ε} {c : Course V S σ ε}
    (hleft : ¬ (c.run.tasks = [] ∧ c.run.flight = none)) {answer : Poll (Except ε Unit)}
    (hbefore : .call (.close answer) ∉ c.history) :
    .call (.close answer) ∉ (c.next flow).history := by
  intro hclose
  rw [next_eq, ← Run.deeds] at hclose
  rcases List.mem_append.mp hclose with hclose | hclose
  · exact hbefore hclose
  · have hcalls : .close answer ∈ c.run.calls flow c.state := by
      rw [← Run.callsIn_deeds]
      refine List.mem_filterMap.mpr ⟨_, (List.mem_append.mp hclose).resolve_right ?_, rfl⟩
      rcases (c.run.step flow c.state).1.1 with _ | _ | _ <;> simp [Turn.returned]
    exact hleft (Run.nothing_left_of_close hcalls)

/-- A run that has closed its flow is over, and leaves it alone. -/
theorem closed_after (flow : Flow V σ ε) (plan : Plan V S) (s : σ) (n : ℕ)
    {past later : List (Happening V S ε)}
    (hhistory : (after flow plan s n).history = past ++ .call (.close (.ready (.ok ()))) :: later) :
    (after flow plan s n).run.finished = true ∧ callsIn later = [] := by
  refine after_induction (P := fun c : Course V S σ ε ↦ ∀ past later,
    c.history = past ++ .call (.close (.ready (.ok ()))) :: later →
      c.run.finished = true ∧ callsIn later = []) ?_ ?_ n past later hhistory
  · intro past later heq
    simp [start] at heq
  · intro c ih past later heq
    by_cases hfinished : c.run.finished = true
    · rw [next_of_finished flow hfinished] at heq ⊢
      refine ⟨hfinished, ?_⟩
      rcases later.eq_nil_or_concat with rfl | ⟨later, last, rfl⟩
      · rfl
      · rw [List.concat_eq_append, ← List.cons_append, ← List.append_assoc] at heq
        obtain ⟨hbefore, hlast⟩ := List.append_inj' heq rfl
        rw [List.concat_eq_append, callsIn_append, (ih past later hbefore).2,
          ← List.singleton_inj.mp hlast]
        rfl
    · have hbefore : .call (.close (.ready (.ok ()))) ∉ c.history := by
        intro hmem
        obtain ⟨before, after, hbefore⟩ := List.append_of_mem hmem
        exact hfinished (ih before after hbefore).1
      by_cases hleft : c.run.tasks = [] ∧ c.run.flight = none
      · obtain ⟨⟨tasks, flight, k, finished⟩, s, h⟩ := c
        obtain ⟨rfl, rfl⟩ : tasks = [] ∧ flight = none := hleft
        obtain rfl : finished = false := by simpa using hfinished
        have hmem : .call (.close (.ready (.ok ()))) ∈
            (next flow (⟨⟨[], none, k, false⟩, s, h⟩ : Course V S σ ε)).history := by
          simp [heq]
        rw [next_close] at heq hmem ⊢
        rcases hclose : flow.pollClose s with ⟨_ | e | _, s'⟩ <;> rw [hclose] at heq hmem
        · exact absurd hmem (by simpa [called, returning] using hbefore)
        · exact absurd hmem (by simpa [called, broken, returning] using hbefore)
        · simp only [called, returning, List.append_assoc] at heq
          obtain ⟨between, -, hnews⟩ := exists_of_append_cons_eq hbefore heq
          rcases between with _ | ⟨first, between⟩
          · obtain ⟨-, rfl⟩ := List.cons_eq_cons.mp hnews
            exact ⟨rfl, rfl⟩
          · obtain ⟨-, hnews⟩ := List.cons_eq_cons.mp hnews
            rcases between with _ | ⟨second, between⟩ <;> simp at hnews
      · have hmem : .call (.close (.ready (.ok ()))) ∈ (c.next flow).history := by simp [heq]
        exact absurd hmem (close_notMem_next hleft hbefore)

end Course

/-! ### Faithful flows -/

/-- A call is answered well or has to be made again, unless the flow has lapsed. -/
def Fares (lapsed still : σ → Prop) (after : α → σ → Prop) : Poll (Except ε α) × σ → Prop
  | (.pending, s) => lapsed s ∨ still s
  | (.ready (.ok a), s) => lapsed s ∨ after a s
  | (.ready (.error _), s) => lapsed s

/-- A call fares as well where more counts as a lapse. -/
theorem Fares.imp {lapsed lapsed' still : σ → Prop} {after : α → σ → Prop}
    {outcome : Poll (Except ε α) × σ} (hfares : Fares lapsed still after outcome)
    (himp : ∀ s, lapsed s → lapsed' s) : Fares lapsed' still after outcome := by
  rcases outcome with ⟨_ | _ | _, s⟩
  · exact hfares.imp_left (himp s)
  · exact himp s hfares
  · exact hfares.imp_left (himp s)

namespace Flow

theorem Path.split {flow : Flow V σ ε} {s s' : σ} {calls calls' : List (FlowCall V ε)}
    (hpath : flow.Path s (calls ++ calls') s') :
    ∃ t, flow.Path s calls t ∧ flow.Path t calls' s' := by
  induction calls generalizing s with
  | nil => exact ⟨s, .nil s, hpath⟩
  | cons call calls ih =>
    cases hpath with
    | cons hmake hpath =>
      obtain ⟨t, hcalls, hcalls'⟩ := ih hpath
      exact ⟨t, .cons hmake hcalls, hcalls'⟩

theorem Preserves.make {flow : Flow V σ ε} {such : σ → Prop} (hflow : flow.Preserves such) {s : σ}
    (hs : such s) (ask : Ask V) : such (flow.make s ask).2 := by
  cases ask with
  | ready => exact hflow.ready s hs
  | dispatch submission => exact hflow.dispatch submission s hs
  | flush => exact hflow.flush s hs
  | close => exact hflow.close s hs
  | reply => exact hflow.reply s hs

theorem Preserves.path {flow : Flow V σ ε} {such : σ → Prop} (hflow : flow.Preserves such)
    {s s' : σ} {calls : List (FlowCall V ε)} (hpath : flow.Path s calls s') (hs : such s) :
    such s' := by
  induction hpath with
  | nil => exact hs
  | @cons s s' _ call _ hmake _ ih =>
    have hmade := hflow.make hs call.ask
    rw [hmake] at hmade
    exact ih hmade

/-- What it takes for a flow to be faithful, `holds charge w s` saying that it is charged so in the
state `s`, with the service in the state `w` as far as every earlier submission goes. A flow that
has lapsed owes nothing. -/
structure Faithful (flow : Flow V σ ε) (answers : Answering V ω) (lapsed : σ → Prop)
    (holds : Charge V → ω → σ → Prop) : Prop where
  lapses : flow.Preserves lapsed
  ready : ∀ {w s}, holds .idle w s →
    Fares lapsed (holds .idle w) (fun _ ↦ holds .idle w) (flow.pollReady s)
  dispatch : ∀ {w s} submission, holds .idle w s →
    lapsed (flow.startDispatch submission s).2 ∨
      (flow.startDispatch submission s).1 = .ok () ∧
        holds (.serving submission) w (flow.startDispatch submission s).2
  flush : ∀ {w s submission}, holds (.serving submission) w s →
    Fares lapsed (holds (.serving submission) w) (fun _ ↦ holds (.serving submission) w)
      (flow.pollFlush s)
  reply : ∀ {w s submission}, holds (.serving submission) w s →
    Fares lapsed (holds (.serving submission) w)
      (fun reply s' ↦ reply.ticket = submission.ticket ∧
        ∃ w', answers submission w reply.answer w' ∧ holds .idle w' s') (flow.pollReply s)
  close : ∀ {w s}, holds .idle w s →
    Fares lapsed (holds .idle w) (fun _ ↦ holds .closed w) (flow.pollClose s)

theorem Faithful.imp {flow : Flow V σ ε} {answers : Answering V ω} {lapsed lapsed' : σ → Prop}
    {holds : Charge V → ω → σ → Prop} (hfaithful : flow.Faithful answers lapsed holds)
    (himp : ∀ s, lapsed s → lapsed' s) (hlapses : flow.Preserves lapsed') :
    flow.Faithful answers lapsed' holds where
  lapses := hlapses
  ready hs := (hfaithful.ready hs).imp himp
  dispatch submission hs := (hfaithful.dispatch submission hs).imp_left (himp _)
  flush hs := (hfaithful.flush hs).imp himp
  reply hs := (hfaithful.reply hs).imp himp
  close hs := (hfaithful.close hs).imp himp

namespace Faithful

variable {flow : Flow V σ ε} {answers : Answering V ω} {lapsed : σ → Prop}
  {holds : Charge V → ω → σ → Prop} (hfaithful : flow.Faithful answers lapsed holds)
include hfaithful

/-- A call that is allowed is answered well, and leaves the flow charged as the past with the call
says. -/
theorem call {past : List (Happening V S ε)} {call : FlowCall V ε}
    (hallowed : Allowed past (.call call)) {charge : Charge V} {w₀ w : ω} {t t' : σ}
    (htold : Told answers (exchangesIn past) w₀ w) (hholds : holds charge w t)
    (hfits : charge.Fits past) (hopen : charge ≠ .closed)
    (hmake : flow.make t call.ask = (call, t')) (hkept : ¬ lapsed t') :
    call.breach? (lastTicket? past) = none ∧ ∃ charge' w', holds charge' w' t' ∧
      Told answers (exchangesIn (past ++ [.call call])) w₀ w' ∧
      charge'.Fits (past ++ [.call call]) := by
  have hidle : Settled past → charge = .idle := by
    intro hsettled
    cases charge with
    | idle => rfl
    | serving submission =>
      obtain ⟨⟨later, hflight⟩, -⟩ := hfits
      exact absurd hsettled hflight.not_settled
    | closed => exact absurd rfl hopen
  have hserving : (∃ ticket later, InFlight ticket later past) →
      ∃ submission, charge = .serving submission := by
    rintro ⟨ticket, later, hflight⟩
    cases charge with
    | idle => exact absurd hfits.1 hflight.not_settled
    | serving submission => exact ⟨submission, rfl⟩
    | closed => exact absurd rfl hopen
  -- Most calls are no part of an exchange.
  have hstill : (Happening.call (S := S) call).Silent → holds charge w t' → ∃ charge' w',
      holds charge' w' t' ∧ Told answers (exchangesIn (past ++ [.call call])) w₀ w' ∧
        charge'.Fits (past ++ [.call call]) := fun hcall hholds ↦
    ⟨charge, w, hholds, by rwa [exchangesIn_append_silent hcall], hfits.append hcall⟩
  cases call with
  | ready answer =>
    obtain rfl := hidle hallowed.2
    have hfares := hfaithful.ready hholds
    obtain ⟨⟨rfl⟩, rfl⟩ := Prod.mk.inj hmake
    rcases hpoll : flow.pollReady t with ⟨_ | e | _, t'⟩ <;> rw [hpoll] at hfares hkept hstill
    · exact ⟨rfl, hstill ⟨rfl, by simp⟩ (hfares.resolve_left hkept)⟩
    · exact absurd hfares hkept
    · exact ⟨rfl, hstill ⟨rfl, by simp⟩ (hfares.resolve_left hkept)⟩
  | dispatch submission answer =>
    obtain rfl := hidle hallowed.2.1
    obtain ⟨hcall, rfl⟩ := Prod.mk.inj hmake
    obtain ⟨-, rfl⟩ := FlowCall.dispatch.inj hcall
    obtain ⟨hok, hholds⟩ := (hfaithful.dispatch submission hholds).resolve_left hkept
    rw [hok]
    refine ⟨rfl, .serving submission, w, hholds, ?_, hfits.dispatched submission⟩
    rwa [exchangesIn_dispatched hfits.2]
  | flush answer =>
    obtain ⟨submission, rfl⟩ := hserving hallowed.2
    have hfares := hfaithful.flush hholds
    obtain ⟨⟨rfl⟩, rfl⟩ := Prod.mk.inj hmake
    rcases hpoll : flow.pollFlush t with ⟨_ | e | _, t'⟩ <;> rw [hpoll] at hfares hkept hstill
    · exact ⟨rfl, hstill ⟨rfl, by simp⟩ (hfares.resolve_left hkept)⟩
    · exact absurd hfares hkept
    · exact ⟨rfl, hstill ⟨rfl, by simp⟩ (hfares.resolve_left hkept)⟩
  | close answer =>
    obtain rfl := hidle hallowed.2
    have hfares := hfaithful.close hholds
    obtain ⟨⟨rfl⟩, rfl⟩ := Prod.mk.inj hmake
    rcases hpoll : flow.pollClose t with ⟨_ | e | _, t'⟩ <;> rw [hpoll] at hfares hkept hstill
    · exact ⟨rfl, hstill ⟨rfl, by simp⟩ (hfares.resolve_left hkept)⟩
    · exact absurd hfares hkept
    · refine ⟨rfl, .closed, w, hfares.resolve_left hkept, ?_, ?_⟩
      · rwa [exchangesIn_append_silent ⟨rfl, by simp⟩]
      · have hidle : Charge.idle.Fits (past ++ [.call (.close (.ready (.ok ())))]) :=
          hfits.append ⟨rfl, by simp⟩
        exact ⟨hidle.1, hidle.2, by simp⟩
  | reply answer =>
    obtain ⟨ticket, later, hflight, -⟩ := hallowed.2
    obtain ⟨submission, rfl⟩ := hserving ⟨ticket, later, hflight⟩
    have hfares := hfaithful.reply hholds
    obtain ⟨⟨rfl⟩, rfl⟩ := Prod.mk.inj hmake
    rcases hpoll : flow.pollReply t with ⟨_ | e | reply, t'⟩ <;> rw [hpoll] at hfares hkept hstill
    · exact ⟨rfl, hstill ⟨rfl, by simp⟩ (hfares.resolve_left hkept)⟩
    · exact absurd hfares hkept
    · obtain ⟨hticket, w', hanswer, hholds'⟩ := hfares.resolve_left hkept
      obtain ⟨⟨later', hflight'⟩, -⟩ := id hfits
      obtain ⟨_, answer⟩ := reply
      obtain rfl := hticket
      refine ⟨?_, .idle, w', hholds', ?_, hfits.replied answer⟩
      · simp [FlowCall.breach?, hflight'.lastTicket]
      · rw [hfits.exchangesIn_replied]
        exact htold.concat hanswer

/-- A run over a faithful flow is intact until the flow lapses, and its exchanges are such as the
flow may make. -/
theorem keeps [Resumes V S] (plan : Plan V S) {w : ω} {s : σ} (hidle : holds .idle w s) {n : ℕ}
    (hkept : ¬ lapsed (Course.after flow plan s n).state) :
    Intact (Course.after flow plan s n).history ∧ ∃ charge w',
      holds charge w' (Course.after flow plan s n).state ∧
        Told answers (exchangesIn (Course.after flow plan s n).history) w w' ∧
        charge.Fits (Course.after flow plan s n).history := by
  have hpath := Course.path_after flow plan s n
  have horderly := (Course.sound_after flow plan s n).orderly
  have hclosed := @Course.closed_after V S σ ε _ flow plan s n
  generalize (Course.after flow plan s n).state = final at hpath hkept
  generalize (Course.after flow plan s n).history = history at hpath horderly hclosed
  -- The calls of the history, one after the other, with what is still to come after them.
  have hpast : ∀ past later, history = past ++ later → ∃ t, flow.Path t (callsIn later) final ∧
      Intact past ∧ ∃ charge w', holds charge w' t ∧ Told answers (exchangesIn past) w w' ∧
        charge.Fits past := by
    intro past
    induction past using List.reverseRecOn with
    | nil =>
      rintro later rfl
      exact ⟨s, hpath, fun past _ _ heq ↦ by simp at heq, .idle, w, hidle, rfl, trivial, rfl⟩
    | append_singleton past happening ih =>
      intro later heq
      rw [List.append_assoc, List.singleton_append] at heq
      obtain ⟨t, hlater, hintact, charge, w', hholds, htold, hfits⟩ := ih _ heq
      have hallowed := horderly past happening later heq
      have hstill : happening.Silent → ∃ charge w', holds charge w' t ∧
          Told answers (exchangesIn (past ++ [happening])) w w' ∧
            charge.Fits (past ++ [happening]) := fun hsilent ↦
        ⟨charge, w', hholds, by rwa [exchangesIn_append_silent hsilent], hfits.append hsilent⟩
      cases happening with
      | resumed step value =>
        exact ⟨t, hlater, hintact.resumed step value, hstill ⟨rfl, by simp⟩⟩
      | returned outcome =>
        exact ⟨t, hlater, hintact.returned outcome, hstill ⟨rfl, by simp⟩⟩
      | call call =>
        cases hlater with
        | @cons _ t' _ _ _ hmake hlater =>
          have hopen : charge ≠ .closed := by
            rintro rfl
            obtain ⟨before, after, rfl⟩ := List.append_of_mem hfits.2.2
            rw [List.append_assoc, List.cons_append] at heq
            have hnone := (hclosed heq).2
            simp [callsIn] at hnone
          have hkept' : ¬ lapsed t' := fun hlapsed ↦
            hkept (hfaithful.lapses.path hlater hlapsed)
          obtain ⟨hbreach, charge', w'', hholds', htold', hfits'⟩ :=
            hfaithful.call hallowed htold hholds hfits hopen hmake hkept'
          exact ⟨t', hlater, hintact.call hbreach, charge', w'', hholds', htold', hfits'⟩
  obtain ⟨t, hlater, hintact, hcharge⟩ := hpast history [] (List.append_nil _).symm
  cases hlater
  exact ⟨hintact, hcharge⟩

end Faithful

end Flow

/-! ### Taking over from a flow that lapses -/

/-- A call is answered well after it has been pending some times, unless the flow lapses before. -/
inductive Answered (lapsed : σ → Prop) (poll : σ → Poll (Except ε α) × σ) : σ → Prop where
  | now {s s' : σ} {a : α} (hpoll : poll s = (.ready (.ok a), s')) : Answered lapsed poll s
  | lapse {s : σ} (hlapsed : lapsed (poll s).2) : Answered lapsed poll s
  | later {s s' : σ} (hpoll : poll s = (.pending, s')) (hlater : Answered lapsed poll s') :
    Answered lapsed poll s

/-- A call that fares well is answered well if it cannot be made again for ever without a lapse. -/
theorem answered_of_measure {lapsed still : σ → Prop} {after : α → σ → Prop}
    {poll : σ → Poll (Except ε α) × σ} (hfares : ∀ s, still s → Fares lapsed still after (poll s))
    (measure : σ → ℕ) (hmeasure : ∀ s, lapsed (poll s).2 ∨ measure (poll s).2 < measure s) {s : σ}
    (hs : still s) : Answered lapsed poll s := by
  induction hn : measure s using Nat.strong_induction_on generalizing s with
  | _ n ih =>
    subst hn
    have hfare := hfares s hs
    rcases hmeasure s with hlapsed | hlt
    · exact .lapse hlapsed
    · rcases hpoll : poll s with ⟨_ | _ | _, s'⟩ <;> rw [hpoll] at hfare hlt
      · rcases hfare with hlapsed | hstill
        · exact .lapse (by rwa [hpoll])
        · exact .later hpoll (ih _ hlt hstill rfl)
      · exact .lapse (by rw [hpoll]; exact hfare)
      · exact .now hpoll

open Classical in
/-- A call that is answered well once the flow has lapsed. -/
noncomputable def covering {τ : Type} (lapsed : σ → Prop) (poll : σ → Poll (Except ε Unit) × σ) :
    σ × τ → Poll (Except ε Unit) × σ × τ :=
  fun (s, t) ↦
    let (answer, s) := poll s
    (if lapsed s then .ready (.ok ()) else answer, s, t)

/-- A call that is answered in the end is answered so when it is covered. -/
theorem eventually_covering {τ : Type} {lapsed such : σ → Prop} {after : Unit → σ → Prop}
    {poll : σ → Poll (Except ε Unit) × σ} (hlapses : ∀ s, lapsed s → lapsed (poll s).2)
    (hfares : ∀ s, such s → Fares lapsed such after (poll s))
    {s : σ} (hs : lapsed s ∨ such s ∧ Answered lapsed poll s) (t : τ) :
    Eventually (covering lapsed poll) (fun _ s' ↦ s'.2 = t ∧ (lapsed s'.1 ∨ after () s'.1))
      (s, t) := by
  have hlapsed : ∀ s, lapsed (poll s).2 → Eventually (covering lapsed poll)
      (fun _ s' ↦ s'.2 = t ∧ (lapsed s'.1 ∨ after () s'.1)) (s, t) := by
    intro s hlapsed
    have hnow : covering lapsed poll (s, t) = (.ready (.ok ()), (poll s).2, t) := by
      simp [covering, hlapsed]
    exact .now hnow ⟨rfl, Or.inl hlapsed⟩
  rcases hs with hs | ⟨hs, hanswered⟩
  · exact hlapsed s (hlapses s hs)
  · induction hanswered with
    | lapse h => exact hlapsed _ h
    | @now s s' a hpoll =>
      by_cases h : lapsed s'
      · exact hlapsed s (by rwa [hpoll])
      · have hafter := hfares s hs
        rw [hpoll] at hafter
        have hnow : covering lapsed poll (s, t) = (.ready (.ok ()), s', t) := by
          simp [covering, hpoll, h]
        exact .now hnow ⟨rfl, Or.inr (hafter.resolve_left h)⟩
    | @later s s' hpoll _ ih =>
      by_cases h : lapsed s'
      · exact hlapsed s (by rwa [hpoll])
      · have hstill := hfares s hs
        rw [hpoll] at hstill
        have hlater : covering lapsed poll (s, t) = (.pending, s', t) := by
          simp [covering, hpoll, h]
        exact .later hlater (ih (hstill.resolve_left h))

namespace Flow

open Classical in
/-- A flow that keeps the state of the service and the submission in hand, and goes on with them
where the given one lapses. -/
noncomputable def covered (flow : Flow V σ ε) (answerer : Answerer V ω) (lapsed : σ → Prop) :
    Flow V (σ × ω × Option (Submission V)) ε where
  pollReady := covering lapsed flow.pollReady
  startDispatch := fun submission (s, w, _) ↦
    let (answer, s) := flow.startDispatch submission s
    (if lapsed s then .ok () else answer, s, w, some submission)
  pollFlush := covering lapsed flow.pollFlush
  pollClose := covering lapsed flow.pollClose
  pollReply := fun (s, w, held) ↦
    let (answer, s) := flow.pollReply s
    match held with
    | none => (answer, s, w, none)
    | some submission =>
      let (own, w') := answerer submission w
      if lapsed s then (.ready (.ok ⟨submission.ticket, own⟩), s, w', none)
      else match answer with
        | .ready (.ok reply) => (.ready (.ok reply), s, w', none)
        | answer => (answer, s, w, some submission)

/-- No call is pending for ever. -/
structure Lively (flow : Flow V σ ε) (lapsed : σ → Prop) (holds : Charge V → ω → σ → Prop) :
    Prop where
  ready : ∀ {w s}, holds .idle w s → Answered lapsed flow.pollReady s
  flush : ∀ {w s submission}, holds (.serving submission) w s → Answered lapsed flow.pollFlush s
  reply : ∀ {w s submission}, holds (.serving submission) w s → Answered lapsed flow.pollReply s
  close : ∀ {w s}, holds .idle w s → Answered lapsed flow.pollClose s

/-- How a covered flow stands at each duty. -/
def CoveredAt (lapsed : σ → Prop) (holds : Charge V → ω → σ → Prop) :
    Duty V → ω → σ × ω × Option (Submission V) → Prop
  | .idle, w, (s, held) | .ready, w, (s, held) => held = (w, none) ∧ (lapsed s ∨ holds .idle w s)
  | .holding submission, w, (s, held) | .sent submission, w, (s, held) =>
    held = (w, some submission) ∧ (lapsed s ∨ holds (.serving submission) w s)

section Covered

variable {flow : Flow V σ ε} {answers : Answering V ω} {lapsed : σ → Prop}
  {holds : Charge V → ω → σ → Prop} {answerer : Answerer V ω}

/-- A covered flow replies as the answerer does, whether or not the flow under it lapses. -/
theorem Faithful.reply_covered (hfaithful : flow.Faithful answers lapsed holds)
    (hanswers : ∀ {submission w a w'}, answers submission w a w' → answerer submission w = (a, w'))
    {w : ω} {s : σ} {submission : Submission V}
    (hs : lapsed s ∨ holds (.serving submission) w s ∧ Answered lapsed flow.pollReply s) :
    Eventually (flow.covered answerer lapsed).pollReply
      (fun reply s' ↦ reply = ⟨submission.ticket, (answerer submission w).1⟩ ∧
        CoveredAt lapsed holds .idle (answerer submission w).2 s') (s, w, some submission) := by
  have hlapsed : ∀ s, lapsed (flow.pollReply s).2 →
      Eventually (flow.covered answerer lapsed).pollReply
        (fun reply s' ↦ reply = ⟨submission.ticket, (answerer submission w).1⟩ ∧
          CoveredAt lapsed holds .idle (answerer submission w).2 s') (s, w, some submission) := by
    intro s hlapsed
    have hnow : (flow.covered answerer lapsed).pollReply (s, w, some submission) =
        (.ready (.ok ⟨submission.ticket, (answerer submission w).1⟩), (flow.pollReply s).2,
          (answerer submission w).2, none) := by
      simp [covered, hlapsed]
    exact .now hnow ⟨rfl, rfl, Or.inl hlapsed⟩
  rcases hs with hs | ⟨hs, hanswered⟩
  · exact hlapsed s (hfaithful.lapses.reply s hs)
  · induction hanswered with
    | lapse h => exact hlapsed _ h
    | @now s s' reply hpoll =>
      by_cases h : lapsed s'
      · exact hlapsed s (by rwa [hpoll])
      · have hafter := hfaithful.reply hs
        rw [hpoll] at hafter
        obtain ⟨hticket, w', hanswer, hidle⟩ := hafter.resolve_left h
        obtain ⟨ticket, answer⟩ := reply
        obtain rfl := hticket
        have hnow : (flow.covered answerer lapsed).pollReply (s, w, some submission) =
            (.ready (.ok ⟨submission.ticket, answer⟩), s', w', none) := by
          simp [covered, hpoll, h, hanswers hanswer]
        refine .now hnow ?_
        rw [hanswers hanswer]
        exact ⟨rfl, rfl, Or.inr hidle⟩
    | @later s s' hpoll _ ih =>
      by_cases h : lapsed s'
      · exact hlapsed s (by rwa [hpoll])
      · have hstill := hfaithful.reply hs
        rw [hpoll] at hstill
        have hlater : (flow.covered answerer lapsed).pollReply (s, w, some submission) =
            (.pending, s', w, some submission) := by
          simp [covered, hpoll, h]
        exact .later hlater (ih (hstill.resolve_left h))

/-- A covered flow serves, whether or not the flow under it lapses. -/
theorem Faithful.serving_covered (hfaithful : flow.Faithful answers lapsed holds)
    (hlively : flow.Lively lapsed holds)
    (hanswers : ∀ {submission w a w'}, answers submission w a w' →
      answerer submission w = (a, w')) :
    (flow.covered answerer lapsed).Serving answerer (CoveredAt lapsed holds) where
  ready := by
    rintro w ⟨s, w₀, held⟩ ⟨⟨⟩, hs⟩
    exact (eventually_covering hfaithful.lapses.ready (fun _ ↦ hfaithful.ready)
      (hs.imp_right fun hs ↦ ⟨hs, hlively.ready hs⟩) (w, none)).imp fun _ _ hafter ↦ hafter
  dispatch := by
    rintro w ⟨s, w₀, held⟩ submission ⟨⟨⟩, hs⟩
    refine ⟨((flow.startDispatch submission s).2, w, some submission), ?_, rfl, ?_⟩
    · by_cases h : lapsed (flow.startDispatch submission s).2
      · simp [covered, h]
      · have hidle := hs.resolve_left fun hs ↦ h (hfaithful.lapses.dispatch submission s hs)
        obtain ⟨hok, -⟩ := (hfaithful.dispatch submission hidle).resolve_left h
        simp [covered, h, hok]
    · rcases hs with hs | hs
      · exact Or.inl (hfaithful.lapses.dispatch submission s hs)
      · exact (hfaithful.dispatch submission hs).imp_right fun hok ↦ hok.2
  flush := by
    rintro w ⟨s, w₀, held⟩ submission ⟨⟨⟩, hs⟩
    exact (eventually_covering hfaithful.lapses.flush (fun _ ↦ hfaithful.flush)
      (hs.imp_right fun hs ↦ ⟨hs, hlively.flush hs⟩) (w, some submission)).imp
        fun _ _ hafter ↦ hafter
  reply := by
    rintro w ⟨s, w₀, held⟩ submission ⟨⟨⟩, hs⟩
    exact hfaithful.reply_covered hanswers (hs.imp_right fun hs ↦ ⟨hs, hlively.reply hs⟩)
  close := by
    rintro w ⟨s, w₀, held⟩ ⟨⟨⟩, hs⟩
    exact (eventually_covering hfaithful.lapses.close (fun _ ↦ hfaithful.close)
      (hs.imp_right fun hs ↦ ⟨hs, hlively.close hs⟩) (w, none)).imp fun _ _ _ ↦ trivial

variable (answerer) in
/-- Until the flow lapses, covering it makes no difference. -/
theorem Preserves.path_covered (hlapses : flow.Preserves lapsed) {s s' : σ}
    {calls : List (FlowCall V ε)} (hpath : flow.Path s calls s') (hkept : ¬ lapsed s')
    (held : ω × Option (Submission V)) :
    ∃ held', (flow.covered answerer lapsed).Path (s, held) calls (s', held') := by
  induction hpath generalizing held with
  | nil s => exact ⟨held, .nil _⟩
  | @cons s t s' call calls hmake hcalls ih =>
    have ht : ¬ lapsed t := fun ht ↦ hkept (hlapses.path hcalls ht)
    have hcovered : ∃ held', (flow.covered answerer lapsed).make (s, held) call.ask =
        (call, t, held') := by
      obtain ⟨w, held⟩ := held
      cases call with
      | ready answer =>
        obtain ⟨⟨rfl⟩, rfl⟩ := Prod.mk.inj hmake
        simp [Flow.make, FlowCall.ask, covered, covering, ht]
      | dispatch submission answer =>
        obtain ⟨hcall, rfl⟩ := Prod.mk.inj hmake
        obtain ⟨-, rfl⟩ := FlowCall.dispatch.inj hcall
        simp [Flow.make, FlowCall.ask, covered, ht]
      | flush answer =>
        obtain ⟨⟨rfl⟩, rfl⟩ := Prod.mk.inj hmake
        simp [Flow.make, FlowCall.ask, covered, covering, ht]
      | close answer =>
        obtain ⟨⟨rfl⟩, rfl⟩ := Prod.mk.inj hmake
        simp [Flow.make, FlowCall.ask, covered, covering, ht]
      | reply answer =>
        obtain ⟨⟨rfl⟩, rfl⟩ := Prod.mk.inj hmake
        rcases held with _ | submission
        · simp [Flow.make, FlowCall.ask, covered]
        · rcases hpoll : flow.pollReply s with ⟨_ | _ | _, t⟩ <;> rw [hpoll] at ht <;>
            simp [Flow.make, FlowCall.ask, covered, hpoll, ht]
    obtain ⟨held', hcovered⟩ := hcovered
    obtain ⟨held'', hcalls'⟩ := ih hkept held'
    exact ⟨held'', .cons hcovered hcalls'⟩

variable (answerer) in
/-- Until the flow lapses, what happens over it happens over the covered flow. -/
theorem Preserves.history_covered [Resumes V S] (hlapses : flow.Preserves lapsed) (plan : Plan V S)
    {s : σ} {n : ℕ} (hkept : ¬ lapsed (Course.after flow plan s n).state)
    (held : ω × Option (Submission V)) :
    (Course.after flow plan s n).history =
      (Course.after (flow.covered answerer lapsed) plan (s, held) n).history := by
  rcases Course.parting_after flow (flow.covered answerer lapsed) plan s (s, held) n with
    ⟨-, hsame⟩ | ⟨past, call, call', later, later', hown, hcovered, hask, hne⟩
  · exact hsame
  · have hpath := Course.path_after flow plan s n
    have hpath' := Course.path_after (flow.covered answerer lapsed) plan (s, held) n
    obtain ⟨held', hsame⟩ := hlapses.path_covered answerer hpath hkept held
    rw [hown, callsIn_append] at hsame
    rw [hcovered, callsIn_append] at hpath'
    exact absurd (hsame.unique hpath' hask) hne

section Run

variable [Resumes V S] (hfaithful : flow.Faithful answers lapsed holds)
  (hlively : flow.Lively lapsed holds)
  (hanswers : ∀ {submission w a w'}, answers submission w a w' → answerer submission w = (a, w'))
  (plan : Plan V S) {w : ω} {s : σ} (hidle : holds .idle w s)
include hfaithful hlively hanswers hidle

theorem Faithful.serves_covered : (flow.covered answerer lapsed).Serves answerer w (s, w, none) :=
  ⟨CoveredAt lapsed holds, hfaithful.serving_covered hlively hanswers, rfl, Or.inr hidle⟩

/-- Until the flow lapses, a run shows no more than the evaluation of its plan. -/
theorem Faithful.shown {n : ℕ} (hkept : ¬ lapsed (Course.after flow plan s n).state) :
    ∃ depth, (Course.after flow plan s n).trace <+: (account answerer depth plan w).trace := by
  refine (Course.shows_iff (hfaithful.serves_covered hlively hanswers hidle) plan _).mp ⟨n, ?_⟩
  rw [Course.trace, Course.trace, hfaithful.lapses.history_covered answerer plan hkept (w, none)]

/-- Over a flow that never lapses, a run shows what the evaluation of its plan shows. -/
theorem Faithful.shows_iff (hkept : ∀ n, ¬ lapsed (Course.after flow plan s n).state)
    (shown : List (Milestone V)) :
    (Course.Shows flow plan s shown ↔
        ∃ depth, shown <+: (account answerer depth plan w).trace) ∧
      (Course.EndsShowing flow plan s shown ↔
        ∃ depth, (account answerer depth plan w).finish ≠ .cut ∧
          (account answerer depth plan w).trace = shown) := by
  have hserves := hfaithful.serves_covered hlively hanswers hidle
  have hsame n := hfaithful.lapses.history_covered answerer plan (hkept n) (w, none)
  rw [← Course.shows_iff hserves, ← Course.endsShowing_iff hserves]
  simp only [Course.Shows, Course.EndsShowing, Course.trace, hsame, and_self]

end Run

end Covered

end Flow

end Errand
