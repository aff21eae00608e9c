import Errand.Proofs.Channel.Closing
import Errand.Proofs.Channel.Counter
import Errand.Proofs.Run.Awaiting
import Errand.Proofs.Run.Retelling

/-!
Breakdowns behind a retrying worker, as a run over its channel sees them (`Course.inner_breakdown`).
When the flow behind breaks down at an attempt, the worker closes it, stops and drops its end of the
channel, and the run takes the end of the channel for its last item.

At that time the books of the channel say that one more submission was accepted than replies were
collected (`Course.Tallied.outstanding`). So the run, which submits one at a time, is waiting for
the reply to the very submission that was being attempted, and there is none to come. A run that is
kept waiting at an empty counter ends as soon as the worker is gone (`Course.comesToEnd_of_aloft`).
-/

set_option autoImplicit false

namespace Errand

variable {V : ValueTypes} {S τ ε : Type}

/-! ### Tickets of replies -/

/-- Replies that a run took carry the tickets of its submissions, in order. -/
theorem Intact.reply_tickets {past : List (Happening V S ε)} (hintact : Intact past)
    (horderly : Orderly past) :
    ((callsIn past).filterMap FlowCall.collected?).map Reply.ticket <+:
      (dispatchedIn past).map Submission.ticket := by
  induction past using List.reverseRecOn with
  | nil => exact List.prefix_rfl
  | append_singleton past happening ih =>
    have hpast := ih hintact.of_append horderly.of_append
    have hstill : (callsIn [happening]).filterMap FlowCall.collected? = [] →
        ((callsIn (past ++ [happening])).filterMap FlowCall.collected?).map Reply.ticket <+:
          (dispatchedIn (past ++ [happening])).map Submission.ticket := by
      intro hnone
      rw [callsIn_append, List.filterMap_append, hnone, List.append_nil, dispatchedIn_append,
        List.map_append]
      exact hpast.trans (List.prefix_append _ _)
    rcases happening with (_ | _ | _ | _ | _ | _ | reply) | _ | _
    case call.reply.ready.ok =>
      obtain ⟨-, ticket, later, hflight, -⟩ : Allowed past (.call (.reply (.ready (.ok reply)))) :=
        horderly past _ [] rfl
      obtain ⟨submission, -, before, hbefore, hlength⟩ :=
        (exists_fits horderly.of_append hintact.of_append).resolve_left fun hidle ↦
          hflight.not_settled hidle.1
      have hticket : reply.ticket = submission.ticket := by
        simpa [FlowCall.breach?, lastTicket?, hbefore] using hintact past _ [] rfl _ rfl
      -- So far, all submissions but the last one have been replied to.
      rw [hbefore, List.map_append] at hpast
      rw [answersIn_eq, List.length_map] at hlength
      have hsame := (List.prefix_of_prefix_length_le hpast (List.prefix_append _ _)
        (by simp [hlength])).eq_of_length (by simp [hlength])
      rw [callsIn_append, List.filterMap_append, List.map_append, hsame,
        dispatchedIn_append_none rfl, hbefore, List.map_append]
      simp [callsIn, FlowCall.collected?, hticket]
    all_goals exact hstill rfl

namespace Shop

/-- Where more has been taken than replies were sent, though no more accepted than collected but
one, everything accepted was taken and everything sent collected. -/
theorem Booked.unsettled {shop : Shop V τ} (hbooked : shop.Booked)
    (htaken : (shop.all Deal.taken?).length = (shop.all Deal.sent?).length + 1)
    (haccepted : (shop.all Deal.accepted?).length ≤ (shop.all Deal.collected?).length + 1) :
    shop.all Deal.taken? = shop.all Deal.accepted? ∧
      shop.all Deal.sent? = shop.all Deal.collected? ∧ shop.channel.replies = [] := by
  obtain ⟨⟨lost, hqueued, -⟩, lost', hreplied, -⟩ := hbooked
  have hqueued' := congrArg List.length hqueued
  have hreplied' := congrArg List.length hreplied
  simp only [List.length_append] at hqueued' hreplied'
  obtain ⟨hsubmissions, hlost, hreplies, hlost'⟩ : shop.channel.submissions.length = 0 ∧
      lost.length = 0 ∧ shop.channel.replies.length = 0 ∧ lost'.length = 0 := by omega
  rw [List.length_eq_zero_iff] at hsubmissions hlost hreplies hlost'
  refine ⟨?_, ?_, hreplies⟩
  · rw [hqueued, hsubmissions, hlost, List.append_nil, List.append_nil]
  · rw [hreplied, hreplies, hlost', List.append_nil, List.append_nil]

end Shop

namespace Retry

open Shop

variable (inner : Flow V τ ε) (describe : ε → String) (policy : Policy) (buffer : ℕ) (t : τ)

/-- While a submission is attempted, it is the only one that no reply was sent to. -/
theorem Standing.taken_of_trying {policy : Policy} {attempt : Attempt V} {stage : Stage V}
    {rest : List (Deal V)} (hrest : Standing policy (.trying attempt stage) rest) :
    rest.filterMap Deal.taken? = [attempt.submission] := by
  cases hrest with
  | dispatching _ replies => simp [attemptsAt_taken]
  | aloft _ _ replies => simp [attemptsAt_taken]
  | parted _ _ _ _ hover => cases hover

/-- What an attempt makes comes about in the round. -/
theorem Accounted.attempts {σ : Type} {policy : Policy} {attempt : Attempt V} {stage : Stage V}
    {shop shop' : Shop V σ} (haccounted : Accounted policy (.trying attempt stage, shop))
    {made : List (Deal V)} (hmade : stage.Attempts made)
    (hworked : shop'.all Deal.worked? = shop.all Deal.worked? ++ made) :
    ∃ stage', Accounted policy (.trying attempt stage', shop') := by
  rcases hmade with rfl | ⟨submission, rfl, rfl⟩
  · exact ⟨stage, haccounted.goOn [] hworked fun rest hrest ↦ by rwa [List.append_nil]⟩
  · have hmore := haccounted.tended (.attempts attempt submission shop.behind shop)
    exact ⟨.flush, hmore.goOn [] (by simp [hworked]) fun rest hrest ↦ by rwa [List.append_nil]⟩

/-- The flow behind broke down at some call. -/
def BrokeDown (record : List (FlowCall V ε)) : Prop := ∃ call ∈ record, call.breaks = true

theorem not_brokeDown {record : List (FlowCall V ε)} (hrecord : ∀ call ∈ record, call.GoesOn) :
    ¬ BrokeDown record := by
  rintro ⟨call, hcall, hbreaks⟩
  rw [(hrecord call hcall).1] at hbreaks
  cases hbreaks

/-- Once the flow behind has broken down, the account of the worker stays that of an attempt. -/
theorem forsaken_after (acts : List (Client V ⊕ Cue)) :
    let state := Shop.after (tend inner.recorded describe policy) acts
      (.next, Shop.opened buffer (t, []))
    BrokeDown state.2.behind.2 →
      ∃ attempt stage, Accounted policy (.trying attempt stage, state.2) := by
  induction acts using List.reverseRecOn with
  | nil =>
    rintro state ⟨call, hcall, -⟩
    cases hcall
  | append_singleton acts act ih =>
    intro state hbroken
    have hstate : state = Shop.next (tend inner.recorded describe policy) act
        (Shop.after (tend inner.recorded describe policy) acts
          (.next, Shop.opened buffer (t, []))) :=
      Shop.after_append acts [act]
    have hasked : Asked state.1 state.2.behind.2 :=
      asked_after inner describe policy buffer t (acts ++ [act])
    have haccounted := accounted_after inner.recorded describe policy buffer (t, []) acts
    have hbefore := asked_after inner describe policy buffer t acts
    generalize Shop.after (tend inner.recorded describe policy) acts _ = before at *
    obtain ⟨phase, shop⟩ := before
    cases act with
    | inl step =>
      rw [hstate] at hbroken ⊢
      have hbroken : BrokeDown (shop.visit step).behind.2 := hbroken
      rw [visit_behind] at hbroken
      obtain ⟨attempt, stage, htrying⟩ := ih hbroken
      exact ⟨attempt, stage, htrying.visited (shop.visited step)⟩
    | inr cue =>
      have hproceeds := proceeds inner describe policy cue shop phase
      rw [← hstate] at hproceeds
      generalize state = state' at hproceeds hasked hbroken
      cases hproceeds with
      | serves _ _ _ _ _ _ hphase' => exact absurd hbroken (not_brokeDown (hasked.served hphase'))
      | crashes =>
        cases hasked with
        | serving _ _ _ _ hserved => exact absurd hbroken (not_brokeDown hserved)
      | ends | returns => exact absurd hbroken (not_brokeDown (hbefore.served rfl))
      | breaks attempt _ _ _ _ _ _ _ _ _ hmade hworked =>
        exact ⟨attempt, haccounted.attempts hmade hworked⟩
      | waits | stops =>
        refine ih ?_
        simpa [BrokeDown, or_and_right, exists_or, FlowCall.breaks] using hbroken
      | rests | remains => exact ih hbroken

/-! ### A worker that has left off -/

/-- A worker is there until it has stopped or crashed. -/
theorem working_after {σ : Type} (inner : Flow V σ ε) (behind : σ) (acts : List (Client V ⊕ Cue)) :
    let state := Shop.after (tend inner describe policy) acts (.next, Shop.opened buffer behind)
    state.2.channel.working = false ↔ state.1 = .stopped ∨ state.1 = .crashed := by
  refine Shop.after_induction_of_steps (P := fun state : Phase V × Shop V σ ↦
    state.2.channel.working = false ↔ state.1 = .stopped ∨ state.1 = .crashed)
    (tended inner describe policy) (fun hworking hvisited ↦ ?_) (fun hworking htended ↦ ?_)
    (by simp [Shop.opened, Channel.fresh]) acts
  · cases hvisited <;> exact hworking
  · cases htended with
    | stirs => exact hworking
    | crashes | stops => simp [Channel.dropWorker]
    | _ => simpa using hworking

/-- Nothing waits to be collected, and nothing more is going to be sent. -/
def Emptied {σ : Type} (state : Phase V × Shop V σ) : Prop :=
  state.1.isOver = true ∧ state.2.channel.replies = []

theorem Emptied.after {σ : Type} {state : Phase V × Shop V σ} (hemptied : Emptied state)
    (inner : Flow V σ ε) (acts : List (Client V ⊕ Cue)) :
    Emptied (Shop.after (tend inner describe policy) acts state) := by
  refine Shop.after_induction_of_steps (P := Emptied) (tended inner describe policy)
    (fun {phase shop shop'} hemptied hvisited ↦ ?_) (fun hemptied htended ↦ ?_) hemptied acts
  · obtain ⟨hover, hreplies⟩ := hemptied
    refine ⟨hover, ?_⟩
    cases hvisited with
    | collected reply waiting hcollecting hwaiting =>
      cases hwaiting.symm.trans hreplies
    | left => rfl
    | nothing | dispatched | closed => exact hreplies
  · obtain ⟨hover, hreplies⟩ := hemptied
    cases htended with
    | stirs => exact ⟨hover, hreplies⟩
    | crashes | stops => exact ⟨rfl, hreplies⟩
    | _ => cases hover

/-- Takes every submission, gives the replies of a list, and breaks down when there are no more. -/
def exhausting (V : ValueTypes) : Flow V (List (Reply V)) String :=
  { replaying V with
    pollReply
      | [] => (.ready (.error "exhausted"), [])
      | reply :: replies => (.ready (.ok reply), replies) }

end Retry

/-! ### Waiting at an empty counter -/

namespace Shop

variable {Φ κ : Type}

/-- What the client and the worker keep so, calls on the client's side keep so. -/
theorem counter_preserves {work : κ → Φ → Shop V τ → (Move × Φ) × Shop V τ} {cues : ℕ → List κ}
    {P : Φ × Shop V τ → Prop} (hnext : ∀ act state, P state → P (next work act state)) :
    (counter work cues).Preserves fun state ↦ P state.2 := by
  have hserved : ∀ state : ℕ × Φ × Shop V τ, P state.2 → P (served work cues state) :=
    fun state hstate ↦ after_induction hstate hnext _
  exact {
    ready := fun state hstate ↦ hserved state hstate
    dispatch := fun submission state hstate ↦
      hnext (.inl (.dispatch submission)) _ (hserved state hstate)
    flush := fun state hstate ↦ hserved state hstate
    close := fun state hstate ↦ hnext (.inl .close) _ (hserved state hstate)
    reply := fun state hstate ↦ hnext (.inl .collect) _ (hserved state hstate) }

theorem after_served {work : κ → Φ → Shop V τ → (Move × Φ) × Shop V τ} {cues : ℕ → List κ} (i : ℕ)
    (state : Φ × Shop V τ) (later : List κ) :
    after work (later.map .inr) (served work cues (i, state)) =
      after work ((cues i ++ later).map .inr) state := by
  rw [List.map_append, after_append, served]

theorem visit_collect_nil {shop : Shop V τ} (hreplies : shop.channel.replies = []) :
    shop.visit .collect = shop := by
  rcases hworking : shop.channel.working <;> simp [visit, Channel.collect, hreplies, hworking]

theorem counter_pollReply_nil {work : κ → Φ → Shop V τ → (Move × Φ) × Shop V τ}
    {cues : ℕ → List κ} {state : ℕ × Φ × Shop V τ}
    (hreplies : (served work cues state).2.channel.replies = []) :
    (counter work cues).pollReply state =
      (if (served work cues state).2.channel.working then .pending else .ready (.error .stopped),
        state.1 + 1, served work cues state) := by
  rcases hserved : served work cues state with ⟨phase, shop⟩
  have hnone : shop.channel.replies = [] := by simpa [hserved] using hreplies
  rcases hworking : shop.channel.working <;>
    simp [counter, hserved, visit_collect_nil hnone, Channel.collect, hnone, hworking]

section Counter

variable {work : κ → Φ → Shop V τ → (Move × Φ) × Shop V τ} {cues : ℕ → List κ}
  {state state' : ℕ × Φ × Shop V τ}

/-- A counter always flushes. -/
theorem eq_ok_of_counter_flush {answer : Poll (Except FlowError Unit)}
    (hmake : (counter work cues).make state .flush = (.flush answer, state')) :
    answer = .ready (.ok ()) :=
  (FlowCall.flush.inj (Prod.mk.inj hmake).1).symm

/-- At a counter, nothing but the end of the worker makes collecting fail. -/
theorem stopped_of_counter_reply {e : FlowError}
    (hmake : (counter work cues).make state .reply = (.reply (.ready (.error e)), state')) :
    e = .stopped ∧ state'.2.2.channel.working = false := by
  obtain ⟨hcall, rfl⟩ := Prod.mk.inj hmake
  have hreply := FlowCall.reply.inj hcall
  rcases hserved : served work cues state with ⟨phase, shop⟩
  rcases hreplies : shop.channel.replies with _ | ⟨reply, waiting⟩
  · rw [counter_pollReply_nil (by rw [hserved, hreplies])] at hreply ⊢
    rcases hworking : (served work cues state).2.channel.working
    · rw [hworking] at hreply
      exact ⟨(Except.error.inj (Poll.ready.inj hreply)).symm, rfl⟩
    · rw [hworking] at hreply
      cases hreply
  · simp [counter, hserved, Channel.collect, hreplies] at hreply

end Counter

end Shop

namespace Course

open Shop

section Waiting

variable [Resumes V S] {Φ κ : Type} {work : κ → Φ → Shop V τ → (Move × Φ) × Shop V τ}
  {cues : ℕ → List κ} {tasks : List (Task V S)} {ticket : Ticket} {chain : List S} {k i : ℕ}
  {state : Φ × Shop V τ} {h : List (Happening V S FlowError)}

/-- The run comes to its end. -/
def ComesToEnd {σ ε : Type} (flow : Flow V σ ε) (c : Course V S σ ε) : Prop :=
  ∃ m, ((next flow)^[m] c).run.finished = true

theorem ComesToEnd.next {σ ε : Type} {flow : Flow V σ ε} {c : Course V S σ ε}
    (hend : ComesToEnd flow c) (hrunning : c.run.finished = false) :
    ComesToEnd flow (c.next flow) := by
  obtain ⟨_ | m, hm⟩ := hend
  · exact absurd (hrunning.symm.trans hm) nofun
  · exact ⟨m, hm⟩

theorem ComesToEnd.of_next {σ ε : Type} {flow : Flow V σ ε} {c : Course V S σ ε}
    (hend : ComesToEnd flow (c.next flow)) : ComesToEnd flow c := by
  obtain ⟨m, hm⟩ := hend
  exact ⟨m + 1, hm⟩

/-- A run that awaits a reply where nothing is sent ends, or goes on to wait. -/
theorem comesToEnd_of_next_await
    (hreplies : (served work cues (i, state)).2.channel.replies = [])
    (hlater : (served work cues (i, state)).2.channel.working = true → ∀ h', ComesToEnd
      (counter work cues) ⟨⟨tasks, some ⟨ticket, .await, chain⟩, k, false⟩,
        (i + 1, served work cues (i, state)), h'⟩) :
    ComesToEnd (counter work cues)
      (⟨⟨tasks, some ⟨ticket, .await, chain⟩, k, false⟩, (i, state), h⟩ :
        Course V S (ℕ × Φ × Shop V τ) FlowError) := by
  refine .of_next ?_
  rw [next_await, counter_pollReply_nil hreplies]
  rcases hworking : (served work cues (i, state)).2.channel.working
  · exact ⟨0, rfl⟩
  · exact hlater hworking _

/-- Where nothing is sent and the worker will be gone after some phases, a run that awaits a reply
comes to its end. -/
theorem comesToEnd_of_await (hturns : ∀ i, ∃ j, i ≤ j ∧ cues j ≠ []) {phases : ℕ}
    (hreplies : ∀ served : List κ,
      (Shop.after work (served.map .inr) state).2.channel.replies = [])
    (hgone : ∀ served : List κ, phases ≤ served.length →
      (Shop.after work (served.map .inr) state).2.channel.working = false) :
    ComesToEnd (counter work cues)
      (⟨⟨tasks, some ⟨ticket, .await, chain⟩, k, false⟩, (i, state), h⟩ :
        Course V S (ℕ × Φ × Shop V τ) FlowError) := by
  induction phases generalizing i state h with
  | zero =>
    refine comesToEnd_of_next_await (hreplies (cues i)) fun hworking ↦ ?_
    cases hworking.symm.trans (hgone (cues i) (Nat.zero_le _))
  | succ phases ih =>
    obtain ⟨j, hij, hturn⟩ := hturns i
    obtain ⟨distance, rfl⟩ := Nat.exists_eq_add_of_le hij
    clear hij
    -- Up to its next turn, the worker has as many phases before it as now.
    induction distance generalizing i state h with
    | zero =>
      refine comesToEnd_of_next_await (hreplies (cues i)) fun _ h' ↦ ih
        (fun later ↦ after_served i state later ▸ hreplies _) fun later hlater ↦ ?_
      have hlength : 0 < (cues i).length := List.length_pos_of_ne_nil hturn
      exact after_served i state later ▸ hgone _ (by rw [List.length_append]; omega)
    | succ distance ihd =>
      refine comesToEnd_of_next_await (hreplies (cues i)) fun _ h' ↦ ihd
        (fun later ↦ after_served i state later ▸ hreplies _) (fun later hlater ↦ ?_) ?_
      · exact after_served i state later ▸ hgone _ (by rw [List.length_append]; omega)
      · rwa [Nat.add_right_comm, Nat.add_assoc]

theorem comesToEnd_of_aloft (hturns : ∀ i, ∃ j, i ≤ j ∧ cues j ≠ []) {phases : ℕ}
    (hreplies : ∀ served : List κ,
      (Shop.after work (served.map .inr) state).2.channel.replies = [])
    (hgone : ∀ served : List κ, phases ≤ served.length →
      (Shop.after work (served.map .inr) state).2.channel.working = false)
    {stage : Stage V} (hstage : stage = .flush ∨ stage = .await) :
    ComesToEnd (counter work cues)
      (⟨⟨tasks, some ⟨ticket, stage, chain⟩, k, false⟩, (i, state), h⟩ :
        Course V S (ℕ × Φ × Shop V τ) FlowError) := by
  rcases hstage with rfl | rfl
  · refine .of_next ?_
    have hflush : (counter work cues).pollFlush (i, state) =
        (.ready (.ok ()), i + 1, served work cues (i, state)) := rfl
    rw [next_flush, hflush]
    have hgone' : ∀ later : List κ, phases ≤ later.length → (Shop.after work (later.map .inr)
        (served work cues (i, state))).2.channel.working = false := fun later hlater ↦
      after_served i state later ▸ hgone _ (by rw [List.length_append]; omega)
    exact ComesToEnd.next (comesToEnd_of_await hturns
      (fun later ↦ after_served i state later ▸ hreplies _) hgone') rfl
  · exact comesToEnd_of_await hturns hreplies hgone

end Waiting

/-! ### Runs over a worker whose flow broke down -/

open Retry

/-- How a run over a retrying worker, and what the worker has asked of the flow behind, stand to the
books of their channel. -/
structure Tallied (policy : Policy) (c : Course V S (ℕ × Phase V × Ledger V τ ε) FlowError) :
    Prop where
  sound : c.Sound
  kept : c.IntactOrCut
  poised : c.Poised
  accepted : c.state.2.2.all Deal.accepted? = (callsIn c.history).filterMap FlowCall.accepted?
  collected : c.state.2.2.all Deal.collected? = (callsIn c.history).filterMap FlowCall.collected?
  booked : c.state.2.2.Booked
  asked : Retry.Asked c.state.2.1 c.state.2.2.behind.2
  forsaken : BrokeDown c.state.2.2.behind.2 →
    ∃ attempt stage, Accounted policy (.trying attempt stage, c.state.2.2)
  working : c.state.2.2.channel.working = false ↔
    c.state.2.1 = .stopped ∨ c.state.2.1 = .crashed

/-- Where more was dispatched than replied to, the last submission is in flight. -/
theorem serving_of_outstanding {past : List (Happening V S ε)} (horderly : Orderly past)
    (hintact : Intact past)
    (houtstanding : ((callsIn past).filterMap FlowCall.collected?).length <
      (dispatchedIn past).length) : ∃ submission, (Charge.serving submission).Fits past := by
  refine (exists_fits horderly hintact).resolve_left fun hidle ↦ ?_
  have hlength := hidle.2
  rw [answersIn_eq, List.length_map] at hlength
  omega

theorem length_of_serving {past : List (Happening V S ε)} {submission : Submission V}
    (hserving : (Charge.serving submission).Fits past) :
    (dispatchedIn past).length = ((callsIn past).filterMap FlowCall.collected?).length + 1 := by
  obtain ⟨-, before, hbefore, hlength⟩ := hserving
  rw [answersIn_eq, List.length_map] at hlength
  rw [hbefore, List.length_append, hlength, List.length_singleton]

section Tallied

variable {policy : Policy} {c : Course V S (ℕ × Phase V × Ledger V τ ε) FlowError}
  (hc : c.Tallied policy) (hbroken : BrokeDown c.state.2.2.behind.2)
include hc hbroken

theorem Tallied.unreplied :
    (c.state.2.2.all Deal.taken?).length = (c.state.2.2.all Deal.sent?).length + 1 := by
  obtain ⟨attempt, stage, rounds, rest, hworked, -, hrest⟩ := hc.forsaken hbroken
  obtain ⟨htaken, hsent⟩ := all_of_rounds hworked hrest
  rw [htaken, hsent, hrest.taken_of_trying, List.length_append, List.length_map, List.length_map,
    List.length_singleton]

/-- Not everything that was accepted has been replied to. -/
theorem Tallied.outstanding : ((callsIn c.history).filterMap FlowCall.collected?).length <
    ((callsIn c.history).filterMap FlowCall.accepted?).length := by
  obtain ⟨⟨lost, hqueued, -⟩, lost', hreplied, -⟩ := hc.booked
  have hqueued' := congrArg List.length hqueued
  have hreplied' := congrArg List.length hreplied
  have hunreplied := hc.unreplied hbroken
  rw [hc.accepted] at hqueued'
  rw [hc.collected] at hreplied'
  simp only [List.length_append] at hqueued' hreplied'
  omega

theorem Tallied.closing_or_stopped : c.state.2.1 = .closing ∨ c.state.2.1 = .stopped := by
  have hasked := hc.asked
  generalize c.state.2.1 = phase at hasked
  generalize c.state.2.2.behind.2 = record at hasked hbroken
  cases hasked with
  | serving _ _ _ _ hserved => exact absurd hbroken (not_brokeDown hserved)
  | closing => exact Or.inl rfl
  | stopped => exact Or.inr rfl

/-- A run that is not over is waiting for a reply, and no reply is waiting for it. -/
theorem Tallied.waiting (hrunning : c.run.finished = false) :
    c.run.IsAloft ∧ Emptied c.state.2 := by
  have hintact := hc.kept.resolve_right fun ⟨_, _, _, _, _, _, hfinished, _⟩ ↦ by
    simp [hrunning] at hfinished
  have houtstanding := hc.outstanding hbroken
  rw [hintact.accepted] at houtstanding
  obtain ⟨submission, hserving⟩ := serving_of_outstanding hc.sound.orderly hintact houtstanding
  have hlength := length_of_serving hserving
  obtain ⟨⟨later, hflight⟩, -⟩ := hserving
  refine ⟨?_, ?_, ?_⟩
  · obtain ⟨-, hstands⟩ := hc.sound.stands.resolve_left (by simp [hrunning])
    rcases hrun : c.run.flight with _ | ⟨ticket, stage, chain⟩
    · rw [hrun] at hstands
      exact absurd hstands.1 hflight.not_settled
    · refine ⟨ticket, stage, chain, hrun, ?_⟩
      rw [hrun] at hstands
      cases stage with
      | dispatch submission => exact absurd hstands.1 hflight.not_settled
      | flush => exact Or.inl rfl
      | await => exact Or.inr rfl
  · rcases hc.closing_or_stopped hbroken with hphase | hphase <;> rw [hphase] <;> rfl
  · refine (hc.booked.unsettled (hc.unreplied hbroken) ?_).2.2
    rw [hc.accepted, hc.collected, hintact.accepted, hlength]

/-- A run that is over has been cut. -/
theorem Tallied.cut (hfinished : c.run.finished = true) : c.Cut := by
  rcases hc.poised.ended hfinished with hcut | hsettled
  · exact hcut
  · refine hc.kept.resolve_left fun hintact ↦ ?_
    have houtstanding := hc.outstanding hbroken
    rw [hintact.accepted] at houtstanding
    obtain ⟨submission, ⟨later, hflight⟩, -⟩ :=
      serving_of_outstanding hc.sound.orderly hintact houtstanding
    exact hflight.not_settled hsettled

/-- The call that cut the run flushed, or failed to collect, while a submission was in flight. -/
theorem Tallied.cut_while_serving {past : List (Happening V S FlowError)}
    {call : FlowCall V FlowError} {error : RunError FlowError} {m : ℕ} (hintact : Intact past)
    (hbreach : call.breach? (lastTicket? past) = some error)
    (hhistory : c.history = past ++ .call call :: .returned (.ready (some (.error error))) ::
      List.replicate m (.returned (.ready none))) :
    (∃ submission, (Charge.serving submission).Fits past) ∧
      ((∃ answer, call = .flush answer) ∨ ∃ e, call = .reply (.ready (.error e))) := by
  have horderly : Orderly (past ++ .call call :: _) := hhistory ▸ hc.sound.orderly
  have hallowed : Allowed past (.call call) := horderly past _ _ rfl
  have hcalls : callsIn c.history = callsIn past ++ [call] := by
    rw [hhistory, callsIn_append]
    simp [callsIn]
  have houtstanding := hc.outstanding hbroken
  have haccepted : call.accepted? = none := by
    rcases call with _ | ⟨_, _ | _⟩ | _ | _ | _
    case dispatch.ok => cases hbreach
    all_goals rfl
  rw [hcalls, List.filterMap_append, List.filterMap_append, hintact.accepted] at houtstanding
  simp only [List.filterMap_cons, haccepted, List.filterMap_nil, List.append_nil,
    List.length_append] at houtstanding
  obtain ⟨submission, hserving⟩ :=
    serving_of_outstanding horderly.of_append hintact (Nat.lt_of_add_right_lt houtstanding)
  have hlength := length_of_serving hserving
  have hunsettled : ¬ Settled past := by
    obtain ⟨⟨later, hflight⟩, -⟩ := hserving
    exact hflight.not_settled
  refine ⟨⟨submission, hserving⟩, ?_⟩
  rcases call with answer | ⟨_, answer⟩ | answer | answer | _ | e | reply
  · exact absurd hallowed.2 hunsettled
  · exact absurd hallowed.2.1 hunsettled
  · exact Or.inl ⟨answer, rfl⟩
  · exact absurd hallowed.2 hunsettled
  · cases hbreach
  · exact Or.inr ⟨e, rfl⟩
  · have hcollected : (FlowCall.reply (V := V) (ε := FlowError) (.ready (.ok reply))).collected? =
        some reply := rfl
    simp only [hcollected, List.length_singleton] at houtstanding
    omega

end Tallied

/-- The run ended in this past because its worker stopped. The worker went through rounds for all
submissions but the last one, and the flow behind broke down while it had that in hand. -/
structure StoppedAt (policy : Policy) (past : List (Happening V S FlowError))
    (rounds : List (Round V)) (submission : Submission V)
    (c : Course V S (ℕ × Phase V × Ledger V τ ε) FlowError) : Prop where
  /-- The run returned one error, and only `none` since. -/
  history : ∃ m, c.history = past ++ .call (.reply (.ready (.error .stopped))) ::
    .returned (.ready (some (.error (.collect .stopped)))) ::
      List.replicate m (.returned (.ready none))
  dispatched : dispatchedIn past = rounds.map Round.submission ++ [submission]
  ticket : submission.ticket.number = rounds.length
  /-- The submission was the last thing to be shown. -/
  shown : ∃ shown, traceOf past = shown ++ [.dispatched submission]
  exchanged : exchangesIn past = rounds.map fun round ↦ (round.submission, round.reply.answer)
  answered : ∀ round ∈ rounds, round.reply.ticket = round.submission.ticket
  obeyed : ∀ round ∈ rounds, round.Obeys policy
  /-- The worker gave up the submission in an attempt, the policy having granted those before. -/
  attempted : ∃ (attempt : Attempt V) (stage : Stage V) (rest : List (Deal V)),
    attempt.submission = submission ∧
      c.state.2.2.all Deal.worked? = rounds.flatMap Round.whole ++ rest ∧
        Retry.Standing policy (.trying attempt stage) rest
  sent : c.state.2.2.all Deal.sent? = rounds.map Round.reply
  /-- After the call at which it broke down, the flow was closed and asked nothing else. -/
  asked : ∃ (served : List (FlowCall V ε)) (broken : FlowCall V ε) (waits : ℕ)
    (outcome : Except ε Unit), c.state.2.2.behind.2 = served ++ [broken] ++
      List.replicate waits (.close .pending) ++ [.close (.ready outcome)] ∧
        (∀ call ∈ served, call.GoesOn) ∧ broken.breaks = true

section StoppedAt

variable {policy : Policy} {c : Course V S (ℕ × Phase V × Ledger V τ ε) FlowError}
  (hc : c.Tallied policy) (hbroken : BrokeDown c.state.2.2.behind.2)
include hc hbroken

theorem Tallied.asked_of_stopped (hstopped : c.state.2.1 = .stopped) :
    ∃ (served : List (FlowCall V ε)) (broken : FlowCall V ε) (waits : ℕ)
      (outcome : Except ε Unit), c.state.2.2.behind.2 = served ++ [broken] ++
        List.replicate waits (.close .pending) ++ [.close (.ready outcome)] ∧
          (∀ call ∈ served, call.GoesOn) ∧ broken.breaks = true := by
  have hasked := hc.asked
  generalize c.state.2.1 = phase at hasked hstopped
  generalize c.state.2.2.behind.2 = record at hasked hbroken
  subst hstopped
  cases hasked with
  | serving _ _ _ hstopped => exact absurd rfl hstopped
  | stopped served broken waits outcome hserved hbreaks =>
    rcases broken with _ | broken
    · obtain ⟨call, hcall, hbroken⟩ := hbroken
      obtain hcall | ⟨-, rfl⟩ | rfl : call ∈ served ∨
          (waits ≠ 0 ∧ call = .close .pending) ∨ call = .close (.ready outcome) := by
        simpa using hcall
      · cases hbroken.symm.trans (hserved call hcall).1
      · cases hbroken
      · cases hbroken
    · exact ⟨served, broken, waits, outcome, rfl, hserved, hbreaks broken rfl⟩

/-- What is to be said of a run that was cut because its worker stopped. -/
theorem Tallied.stoppedAt (hstopped : c.state.2.1 = .stopped)
    {past : List (Happening V S FlowError)} (hintact : Intact past) {submission : Submission V}
    (hserving : (Charge.serving submission).Fits past)
    (hhistory : ∃ m, c.history = past ++ .call (.reply (.ready (.error .stopped))) ::
      .returned (.ready (some (.error (.collect .stopped)))) ::
        List.replicate m (.returned (.ready none))) :
    ∃ rounds, StoppedAt policy past rounds submission c := by
  obtain ⟨m, hm⟩ := id hhistory
  have horderly : Orderly past := (hm ▸ hc.sound.orderly).of_append
  have hcalls : callsIn c.history = callsIn past ++ [.reply (.ready (.error .stopped))] := by
    rw [hm, callsIn_append]
    simp [callsIn]
  have haccepted : c.state.2.2.all Deal.accepted? = dispatchedIn past := by
    rw [hc.accepted, hcalls, List.filterMap_append, hintact.accepted]
    exact List.append_nil _
  have hcollected :
      c.state.2.2.all Deal.collected? = (callsIn past).filterMap FlowCall.collected? := by
    rw [hc.collected, hcalls, List.filterMap_append]
    exact List.append_nil _
  have hlength := length_of_serving hserving
  obtain ⟨htaken, hsent, -⟩ := hc.booked.unsettled (hc.unreplied hbroken)
    (by rw [haccepted, hcollected, hlength])
  obtain ⟨attempt, stage, rounds, rest, hworked, hobeyed, hrest⟩ := hc.forsaken hbroken
  obtain ⟨htakenIn, hsentIn⟩ := all_of_rounds hworked hrest
  -- The submission in flight is the one that is being attempted.
  have hdispatched : dispatchedIn past = rounds.map Round.submission ++ [attempt.submission] := by
    rw [← haccepted, ← htaken, htakenIn, hrest.taken_of_trying]
  obtain ⟨-, before, hbefore, -⟩ := id hserving
  obtain rfl : attempt.submission = submission := by
    rw [hdispatched] at hbefore
    exact List.singleton_inj.mp (List.append_inj' hbefore rfl).2
  have hcollectedIn : (callsIn past).filterMap FlowCall.collected? = rounds.map Round.reply := by
    rw [← hcollected, ← hsent, hsentIn]
  have hhushed : Hushed past := hc.poised.expectant past _ _ hm _ rfl
  refine ⟨rounds, {
    history := hhistory
    dispatched := hdispatched
    ticket := ?_
    shown := hhushed.trace_eq hdispatched
    exchanged := ?_
    answered := ?_
    obeyed := hobeyed
    attempted := ⟨attempt, stage, rest, rfl, hworked, hrest⟩
    sent := hsentIn
    asked := hc.asked_of_stopped hbroken hstopped }⟩
  · have htickets := horderly.tickets
    rw [hdispatched, List.length_append, List.length_map, List.length_singleton, List.range_succ,
      List.map_append] at htickets
    exact List.singleton_inj.mp (List.append_inj' htickets rfl).2
  · have hzip : (rounds.map Round.submission ++ [attempt.submission]).zip
        (rounds.map (Reply.answer ∘ Round.reply) ++ []) =
          (rounds.map Round.submission).zip (rounds.map (Reply.answer ∘ Round.reply)) ++
            [attempt.submission].zip [] := List.zip_append (by simp)
    rw [exchangesIn, answersIn_eq, hcollectedIn, hdispatched, List.map_map]
    simpa [List.zip_map'] using hzip
  · have htickets := hintact.reply_tickets horderly
    rw [hcollectedIn, hdispatched, List.map_append] at htickets
    have hsame := (List.prefix_of_prefix_length_le htickets (List.prefix_append _ _)
      (by simp)).eq_of_length (by simp)
    simpa using hsame

end StoppedAt

section Retrying

variable [Resumes V S] (inner : Flow V τ ε) (describe : ε → String) (policy : Policy) (buffer : ℕ)
  (t : τ) (cues : ℕ → List Retry.Cue) (plan : Plan V S) (n : ℕ)

/-- The course of a plan over a retrying worker, with what the worker asks of the flow behind on
record. -/
abbrev retrying : Course V S (ℕ × Phase V × Ledger V τ ε) FlowError :=
  after (Shop.counter (tend inner.recorded describe policy) cues) plan
    (0, .next, Shop.opened buffer (t, [])) n

/-- The run has come about by steps of the client and phases of the worker. -/
theorem tallied_retrying :
    let c := retrying inner describe policy buffer t cues plan n
    c.Tallied policy ∧ ∃ acts : List (Client V ⊕ Retry.Cue), c.state.2 =
      Shop.after (tend inner.recorded describe policy) acts
        (.next, Shop.opened buffer (t, [])) := by
  intro c
  obtain ⟨acts, hacts, haccepted, hcollected⟩ :=
    Shop.counter_path (discreet_tend inner.recorded describe policy)
      (path_after _ plan (0, .next, Shop.opened buffer (t, [])) n) rfl
  have hasked := asked_after inner describe policy buffer t acts
  have hforsaken := forsaken_after inner describe policy buffer t acts
  have hworking := working_after describe policy buffer inner.recorded (t, []) acts
  refine ⟨⟨sound_after _ plan _ n, intactOrCut_after _ plan _ n, poised_after _ plan _ n, haccepted,
    hcollected, ?_, ?_, ?_, ?_⟩, acts, hacts⟩
  · exact hacts ▸ booked_after inner.recorded describe policy buffer (t, []) acts
  · exact hacts ▸ hasked
  · exact hacts ▸ hforsaken
  · exact hacts ▸ hworking

/-- A flow that has broken down has. -/
theorem brokeDown_retrying_add (m : ℕ)
    (hbroken : BrokeDown (retrying inner describe policy buffer t cues plan n).state.2.2.behind.2) :
    BrokeDown (retrying inner describe policy buffer t cues plan (n + m)).state.2.2.behind.2 := by
  have hkept : (Shop.counter (tend inner.recorded describe policy) cues).Preserves
      fun state ↦ BrokeDown state.2.2.behind.2 :=
    Shop.counter_preserves (P := fun state ↦ BrokeDown state.2.behind.2)
      fun act state ⟨call, hcall, hbreaks⟩ ↦
        ⟨call, (record_prefix_next inner describe policy act state).subset hcall, hbreaks⟩
  induction m with
  | zero => exact hbroken
  | succ m ih =>
    rw [retrying, ← Nat.add_assoc, after_succ, next_eq]
    exact Run.step_preserves hkept _ ih

/-- While the flow is closed and the worker keeps getting its turn, the run comes to its end. -/
theorem comesToEnd_retrying (hturns : ∀ i, ∃ j, i ≤ j ∧ cues j ≠ [])
    (hbroken : BrokeDown (retrying inner describe policy buffer t cues plan n).state.2.2.behind.2)
    (hclose : (retrying inner describe policy buffer t cues plan n).state.2.1 = .closing →
      Responded inner.pollClose (fun _ _ ↦ True)
        (retrying inner describe policy buffer t cues plan n).state.2.2.behind.1) :
    ComesToEnd (Shop.counter (tend inner.recorded describe policy) cues)
      (retrying inner describe policy buffer t cues plan n) := by
  obtain ⟨hc, acts, hacts⟩ := tallied_retrying inner describe policy buffer t cues plan n
  generalize retrying inner describe policy buffer t cues plan n = c at hc hacts hbroken hclose ⊢
  rcases hrunning : c.run.finished
  · obtain ⟨⟨ticket, stage, chain, hflight, hstage⟩, hemptied⟩ := hc.waiting hbroken hrunning
    obtain ⟨phases, hphases⟩ : ∃ phases, ∀ later : List (Client V ⊕ Retry.Cue),
        phases ≤ later.countP Sum.isRight →
          (Shop.after (tend inner.recorded describe policy) later c.state.2).1 = .stopped := by
      obtain ⟨run, ⟨i, phase, shop⟩, h⟩ := c
      rcases hc.closing_or_stopped hbroken with rfl | rfl
      · obtain ⟨phases, hphases⟩ := exists_stopped inner describe policy (hclose rfl)
        exact ⟨phases, fun later ↦ hphases shop later rfl⟩
      · exact ⟨0, fun later _ ↦ stopped_after inner describe policy later⟩
    have hreplies := fun served : List Retry.Cue ↦
      (hemptied.after describe policy inner.recorded (served.map .inr)).2
    have hgone : ∀ served : List Retry.Cue, phases ≤ served.length →
        (Shop.after (tend inner.recorded describe policy) (served.map .inr)
          c.state.2).2.channel.working = false := by
      intro served hserved
      have hworking := working_after describe policy buffer inner.recorded (t, [])
        (acts ++ served.map .inr)
      rw [Shop.after_append, ← hacts] at hworking
      refine hworking.mpr (Or.inl (hphases _ ?_))
      rw [List.countP_map]
      exact hserved.trans (List.countP_eq_length.mpr fun _ _ ↦ rfl).ge
    obtain ⟨⟨tasks, flight, k, finished⟩, ⟨i, state⟩, h⟩ := c
    obtain rfl : flight = some ⟨ticket, stage, chain⟩ := hflight
    obtain rfl : finished = false := hrunning
    exact comesToEnd_of_aloft hturns hreplies hgone hstage
  · exact ⟨0, hrunning⟩

/-- A run that is over has ended because its worker stopped. -/
theorem stoppedAt_retrying
    (hbroken : BrokeDown (retrying inner describe policy buffer t cues plan n).state.2.2.behind.2)
    (hfinished : (retrying inner describe policy buffer t cues plan n).run.finished = true) :
    ∃ past rounds submission, Intact past ∧
      StoppedAt policy past rounds submission
        (retrying inner describe policy buffer t cues plan n) := by
  have hpath := path_after (Shop.counter (tend inner.recorded describe policy) cues) plan
    (0, .next, Shop.opened buffer (t, [])) n
  obtain ⟨hc, -⟩ := tallied_retrying inner describe policy buffer t cues plan n
  obtain ⟨past, call, error, m, hintact, hbreach, -, hhistory⟩ := hc.cut hbroken hfinished
  obtain ⟨⟨submission, hserving⟩, hcall⟩ := hc.cut_while_serving hbroken hintact hbreach hhistory
  have hcalls : callsIn (retrying inner describe policy buffer t cues plan n).history =
      callsIn past ++ [call] := by
    rw [hhistory, callsIn_append]
    simp [callsIn]
  rw [hcalls] at hpath
  obtain ⟨state, -, hlast⟩ := hpath.split
  cases hlast with | cons hmake hrest =>
  cases hrest
  rcases hcall with ⟨answer, rfl⟩ | ⟨e, rfl⟩
  · obtain rfl := Shop.eq_ok_of_counter_flush hmake
    cases hbreach
  · obtain ⟨rfl, hgone⟩ := Shop.stopped_of_counter_reply hmake
    obtain rfl : RunError.collect .stopped = error := Option.some.inj hbreach
    have hstopped : (retrying inner describe policy buffer t cues plan n).state.2.1 = .stopped := by
      rcases hc.working.mp hgone with hphase | hphase
      · exact hphase
      · exact (hc.closing_or_stopped hbroken).resolve_left (by simp [hphase])
    obtain ⟨rounds, hstops⟩ := hc.stoppedAt hbroken hstopped hintact hserving ⟨m, hhistory⟩
    exact ⟨past, rounds, submission, hintact, hstops⟩

omit [Resumes V S] in
/-- A run that ended so stays so. -/
theorem StoppedAt.later {policy : Policy} {past : List (Happening V S FlowError)}
    {rounds : List (Round V)} {submission : Submission V}
    {c : Course V S (ℕ × Phase V × Ledger V τ ε) FlowError}
    (hc : c.StoppedAt policy past rounds submission) (m : ℕ) :
    StoppedAt policy past rounds submission
      { c with history := c.history ++ List.replicate m (.returned (.ready none)) } := by
  obtain ⟨m', hm'⟩ := hc.history
  exact { hc with history := ⟨m' + m, by simp [hm']⟩ }

/-- What a retrying worker asks of the flow behind it, and what comes of it when that breaks down.
Where the clock tells every instant that the worker came to count to, it has not crashed. In any
case it leaves off when nothing more is to come, when nobody collects or when the flow broke down at
an attempt, and on each of these ways it closes the flow, once, and asks nothing more of it.

When the flow has broken down, the run over the channel comes to its end, as long as the flow comes
to be closed and the worker keeps getting its turn. Up to the submission in hand the run has shown
what the evaluation of its plan shows; its last item is the error that the worker stopped. -/
theorem inner_breakdown :
    (∀ acts : List (Client V ⊕ Retry.Cue),
      let state := Shop.after (tend inner.recorded describe policy) acts
        (.next, Shop.opened buffer (t, []))
      ((∀ before cue later, acts = before ++ .inr cue :: later →
          policy.Reckons inner (Shop.after (tend inner.recorded describe policy) before
            (.next, Shop.opened buffer (t, []))) cue.instant) → state.1 ≠ .crashed) ∧
        Retry.Asked state.1 state.2.behind.2 ∧
        (state.1 = .stopped → state.2.behind.2.countP FlowCall.isClosed = 1) ∧
        (state.1 ≠ .stopped → state.2.behind.2.countP FlowCall.isClosed = 0) ∧
        (state.1.isOver = false → ∀ cue,
          let state' := Shop.next (tend inner.recorded describe policy) (.inr cue) state
          state'.1 = .closing ↔ Leaves state.1 state.2 state'.2) ∧
        (state.1 = .closing → Responded inner.pollClose (fun _ _ ↦ True) state.2.behind.1 →
          ∃ phases, ∀ later : List (Client V ⊕ Retry.Cue), phases ≤ later.countP Sum.isRight →
            (Shop.after (tend inner.recorded describe policy) later state).1 = .stopped)) ∧
    let c := retrying inner describe policy buffer t cues plan n
    BrokeDown c.state.2.2.behind.2 →
      (c.state.2.1 = .closing →
        Responded inner.pollClose (fun _ _ ↦ True) c.state.2.2.behind.1) →
      (∀ i, ∃ j, i ≤ j ∧ cues j ≠ []) →
        ∃ past rounds submission N,
          (∀ m, N ≤ m → StoppedAt policy past rounds submission
            (retrying inner describe policy buffer t cues plan m)) ∧
          ∀ (ω : Type) (answerer : Answerer V ω) (w w' : ω),
            Told answerer.answering (exchangesIn past) w w' →
              ∃ depth, traceOf past <+: (account answerer depth plan w).trace := by
  constructor
  · intro acts state
    have hasked : Retry.Asked state.1 state.2.behind.2 :=
      asked_after inner describe policy buffer t acts
    refine ⟨not_crashed_after inner describe policy buffer t acts, hasked,
      hasked.countP_isClosed.1, hasked.countP_isClosed.2, fun hphase cue ↦ ?_,
      fun hphase hclose ↦ ?_⟩
    · exact closing_iff_leaves inner describe policy cue hphase state.2
    · obtain ⟨phases, hphases⟩ := exists_stopped inner describe policy hclose
      refine ⟨phases, fun later hlater ↦ ?_⟩
      have hstopped := hphases state.2 later rfl hlater
      rwa [← hphase] at hstopped
  · intro c hbroken hclose hturns
    obtain ⟨k, hend⟩ :=
      comesToEnd_retrying inner describe policy buffer t cues plan n hturns hbroken hclose
    have hbroken' := brokeDown_retrying_add inner describe policy buffer t cues plan n k hbroken
    have hfinished :
        (retrying inner describe policy buffer t cues plan (n + k)).run.finished = true := by
      rwa [retrying, after_add]
    obtain ⟨past, rounds, submission, hintact, hstops⟩ :=
      stoppedAt_retrying inner describe policy buffer t cues plan (n + k) hbroken' hfinished
    refine ⟨past, rounds, submission, n + k, fun m hm ↦ ?_, fun ω answerer w w' htold ↦ ?_⟩
    · obtain ⟨d, rfl⟩ := Nat.exists_eq_add_of_le hm
      rw [retrying, after_add, iterate_of_finished _ hfinished]
      exact hstops.later d
    · obtain ⟨m, hhistory⟩ := hstops.history
      exact shown_of_told _ plan _ (n + k) hhistory hintact htold

end Retrying

/-- A flow that breaks down at the second attempt at the second submission. Over the same flow, a
client that submits and closes its half at once makes the worker close the flow. -/
theorem inner_breakdown_of_second_attempt :
    let request : Request (Payload values) :=
      { route := ⟨.get, "/"⟩, decode := fun _ ↦ .ok none, label := "Get" }
    let replies : List (Reply values) := [⟨⟨0⟩, .success (Carried.erase (7 : UInt8))⟩,
      ⟨⟨1⟩, .failure (.dropped "lost")⟩]
    let policy := { Policy.scheduled (· matches .dropped _) [.zero] with timeout := some .zero }
    let cues : ℕ → List Retry.Cue := fun _ ↦ [⟨0, true⟩, ⟨0, true⟩]
    let plan : Erased values := .concat [.submit request, .submit request]
    let work := tend (exhausting values).recorded id policy
    let acts := [.inl (.dispatch ⟨⟨0⟩, request⟩), .inl .close] ++
      List.replicate 4 (.inr ⟨0, true⟩)
    let state := Shop.after work acts (.next, Shop.opened 1 (replies, []))
    let c := retrying (exhausting values) id policy 1 replies cues plan 5
    (state.1 = .closing ∧ (∀ before cue later, acts = before ++ .inr cue :: later →
        policy.Reckons (exhausting values)
          (Shop.after work before (.next, Shop.opened 1 (replies, []))) cue.instant) ∧
      state.1 ≠ .crashed ∧ ∃ phases, ∀ later, phases ≤ later.countP Sum.isRight →
        (Shop.after work later state).1 = .stopped) ∧
    BrokeDown c.state.2.2.behind.2 ∧ ∃ past rounds submission N,
      (∀ m, N ≤ m → StoppedAt policy past rounds submission
        (retrying (exhausting values) id policy 1 replies cues plan m)) ∧
      ∃ depth, traceOf past <+:
        (account recite depth plan ((exchangesIn past).map Prod.snd)).trace := by
  intro request replies policy cues plan work acts state c
  obtain ⟨hleaves, hbreaks⟩ :=
    inner_breakdown (exhausting values) id policy 1 replies cues plan 5
  have hclose : ∀ replies : List (Reply values),
      Responded (exhausting values).pollClose (fun _ _ ↦ True) replies := fun _ ↦ .now rfl trivial
  have hclosing : state.1 = .closing := rfl
  have hcounts : ∀ {state duration}, policy.Counts (exhausting values) state duration →
      after? 0 duration ≠ none := by
    intro state duration hcounts
    cases hcounts with
    | deadline shop timeout hsubmissions htimeout =>
      obtain rfl : Duration.zero = duration := Option.some.inj htimeout
      decide
    | wakeUp attempt stage shop reply cause delay hreply hanswer hrecover =>
      -- Only what was dropped is tried again, and only once.
      rcases attempt with ⟨submission, _ | retries, deadline⟩ <;> cases cause <;> cases hrecover
      show after? 0 Duration.zero ≠ none
      decide
  have hreckons : ∀ before cue later, acts = before ++ .inr cue :: later →
      policy.Reckons (exhausting values)
        (Shop.after work before (.next, Shop.opened 1 (replies, []))) cue.instant := by
    intro before cue later hacts duration hduration
    obtain rfl : cue = ⟨0, true⟩ := by
      have hmem : .inr cue ∈ acts := by simp [hacts]
      simpa [acts] using hmem
    exact hcounts hduration
  obtain ⟨hclock, -, -, -, -, hstops⟩ := hleaves acts
  have hbroken : BrokeDown c.state.2.2.behind.2 :=
    ⟨.reply (.ready (.error "exhausted")), List.mem_of_getLast? (by rfl), rfl⟩
  obtain ⟨past, rounds, submission, N, hstopped, hshown⟩ :=
    hbreaks hbroken (fun _ ↦ hclose _) fun i ↦ ⟨i, le_rfl, nofun⟩
  exact ⟨⟨hclosing, hreckons, hclock hreckons, hstops hclosing (hclose _)⟩, hbroken, past, rounds,
    submission, N, hstopped, hshown _ recite _ _ (told_recite _)⟩

end Course

end Errand
