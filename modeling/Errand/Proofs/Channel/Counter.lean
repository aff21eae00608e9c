import Errand.Proofs.Channel.Retrying
import Errand.Proofs.Flow.Faithful

/-!
Runs over the client's side of a shop (`Shop.counter`). Where its worker retries, the run takes the
reply to the last attempt at each submission as it came, and breaks off if that is under another
ticket (`Course.last_reply_decides`). The tickets of the replies before it are never looked at
(`Course.wrong_ticket_hidden`).
-/

set_option autoImplicit false

namespace Errand

variable {V : ValueTypes} {S τ ε Φ κ : Type}

/-! ### Exchanges of a run -/

section Exchanges

/-- In an orderly run that is intact, nothing is in flight or the last submission is. -/
theorem exists_fits {past : List (Happening V S ε)} (horderly : Orderly past)
    (hintact : Intact past) :
    Charge.idle.Fits past ∨ ∃ submission, (Charge.serving submission).Fits past := by
  induction past using List.reverseRecOn with
  | nil => exact Or.inl ⟨trivial, rfl⟩
  | append_singleton past happening ih =>
    have hallowed := horderly past happening [] rfl
    have hunbroken := hintact past happening [] rfl
    have hfits := ih horderly.of_append hintact.of_append
    have hstill : happening.Silent → Charge.idle.Fits (past ++ [happening]) ∨
        ∃ submission, (Charge.serving submission).Fits (past ++ [happening]) := fun hsilent ↦
      hfits.imp (fun h ↦ h.append hsilent) fun ⟨submission, h⟩ ↦ ⟨submission, h.append hsilent⟩
    cases happening with
    | returned outcome => exact hstill ⟨rfl, by simp⟩
    | resumed step value => exact hstill ⟨rfl, by simp⟩
    | call call =>
      cases call with
      | ready answer => exact hstill ⟨rfl, by simp⟩
      | flush answer => exact hstill ⟨rfl, by simp⟩
      | close answer => exact hstill ⟨rfl, by simp⟩
      | dispatch submission answer =>
        rcases answer with e | _
        · cases hunbroken _ rfl
        · rcases hfits with hidle | ⟨submission', hserving⟩
          · exact Or.inr ⟨submission, hidle.dispatched submission⟩
          · obtain ⟨⟨later, hflight⟩, -⟩ := hserving
            exact absurd hallowed.2.1 hflight.not_settled
      | reply answer =>
        obtain ⟨ticket, later, hflight, -⟩ := hallowed.2
        rcases hfits with hidle | ⟨submission, hserving⟩
        · exact absurd hidle.1 hflight.not_settled
        · rcases answer with _ | e | reply
          · exact hstill ⟨rfl, by simp⟩
          · cases hunbroken _ rfl
          · have hbreach := hunbroken (.reply (.ready (.ok reply))) rfl
            obtain ⟨⟨later', hflight'⟩, -⟩ := id hserving
            obtain ⟨ticket', answer⟩ := reply
            obtain rfl : ticket' = submission.ticket := by
              simpa [FlowCall.breach?, hflight'.lastTicket] using hbreach
            exact Or.inl (hserving.replied answer)

/-- What comes before a call of a run is intact. -/
theorem Course.IntactOrCut.intact_of_call {σ : Type} {c : Course V S σ ε} (hkept : c.IntactOrCut)
    {past later : List (Happening V S ε)} {call : FlowCall V ε}
    (hhistory : c.history = past ++ .call call :: later) : Intact past := by
  rcases hkept with hintact | ⟨past₀, call₀, error₀, m, hintact, -, -, hhistory₀⟩
  · rw [hhistory] at hintact
    exact hintact.of_append
  · rw [hhistory] at hhistory₀
    obtain ⟨between, rfl⟩ : ∃ between, past₀ = past ++ between := by
      rcases List.append_eq_append_iff.mp hhistory₀ with ⟨between, rfl, -⟩ | ⟨between, rfl, hlater⟩
      · exact ⟨between, rfl⟩
      · rcases between with _ | ⟨happening, between⟩
        · exact ⟨[], by simp⟩
        · -- Nothing is called after the call that broke.
          obtain ⟨-, hlater⟩ := List.cons_eq_cons.mp hlater
          have hmem : Happening.call call ∈ between.append (.call call :: later) := by simp
          rw [← hlater] at hmem
          simp at hmem
    exact hintact.of_append

/-- When a run takes a reply, nothing has broken and the last submission is in flight. -/
theorem Course.serving_of_reply [Resumes V S] {σ : Type} (flow : Flow V σ ε) (plan : Plan V S)
    (s : σ) (n : ℕ) {past later : List (Happening V S ε)} {reply : Reply V}
    (hhistory : (after flow plan s n).history =
      past ++ .call (.reply (.ready (.ok reply))) :: later) :
    Intact past ∧ ∃ submission, (Charge.serving submission).Fits past := by
  have hintact := (intactOrCut_after flow plan s n).intact_of_call hhistory
  have horderly := (sound_after flow plan s n).orderly
  obtain ⟨-, ticket, later', hflight, -⟩ := horderly past _ later hhistory
  rw [hhistory] at horderly
  exact ⟨hintact, (exists_fits horderly.of_append hintact).resolve_left fun hidle ↦
    hflight.not_settled hidle.1⟩

end Exchanges

/-! ### The client's side of a shop -/

/-- The submission that was accepted. -/
def FlowCall.accepted? : FlowCall V ε → Option (Submission V)
  | .dispatch submission (.ok ()) => some submission
  | _ => none

/-- The reply that was collected. -/
def FlowCall.collected? : FlowCall V ε → Option (Reply V)
  | .reply (.ready (.ok received)) => some received
  | _ => none

namespace Shop

/-- What comes of what a side of the channel hands over, in order. -/
structure Booked (shop : Shop V τ) : Prop where
  /-- What was accepted has been taken, or is waiting, or was dropped by the worker when it went. -/
  queued : ∃ lost, shop.all Deal.accepted? =
    shop.all Deal.taken? ++ shop.channel.submissions ++ lost ∧
      (shop.channel.working = true → lost = [])
  /-- What was sent has been collected, or is waiting, or was dropped by the client when it left. -/
  replied : ∃ lost, shop.all Deal.sent? = shop.all Deal.collected? ++ shop.channel.replies ++ lost ∧
    (shop.channel.collecting = true → lost = [])

theorem booked_opened (buffer : ℕ) (behind : τ) : (opened (V := V) buffer behind).Booked :=
  ⟨⟨[], rfl, fun _ ↦ rfl⟩, [], rfl, fun _ ↦ rfl⟩

theorem Booked.visited {shop shop' : Shop V τ} (hbooked : shop.Booked)
    (hvisited : shop.Visited shop') : shop'.Booked := by
  obtain ⟨⟨lost, hqueued, hlost⟩, lost', hreplied, hlost'⟩ := hbooked
  cases hvisited with
  | nothing => exact ⟨⟨lost, hqueued, hlost⟩, lost', hreplied, hlost'⟩
  | dispatched submission hsending hworking =>
    obtain rfl := hlost hworking
    exact ⟨⟨[], by simp_all, fun _ ↦ rfl⟩, lost', by simpa using hreplied, hlost'⟩
  | collected reply waiting hcollecting hreplies =>
    exact ⟨⟨lost, by simpa using hqueued, hlost⟩, lost', by simpa [hreplies] using hreplied, hlost'⟩
  | closed => exact ⟨⟨lost, hqueued, hlost⟩, lost', hreplied, hlost'⟩
  | left =>
    refine ⟨⟨lost, hqueued, hlost⟩, shop.channel.replies ++ lost', ?_, nofun⟩
    simpa [Channel.dropCollecting] using hreplied

/-- What the worker has come to before the next call, with what is different about its phases from
one call to the next. -/
def served (work : κ → Φ → Shop V τ → (Move × Φ) × Shop V τ) (cues : ℕ → List κ)
    (state : ℕ × Φ × Shop V τ) : Φ × Shop V τ :=
  after work ((cues state.1).map .inr) state.2

/-- The client's side of a shop as a flow. Before each call the worker goes through some phases. -/
def counter (work : κ → Φ → Shop V τ → (Move × Φ) × Shop V τ) (cues : ℕ → List κ) :
    Flow V (ℕ × Φ × Shop V τ) FlowError where
  pollReady state :=
    let (phase, shop) := served work cues state
    (.ready (shop.channel.ready.mapError .undelivered), state.1 + 1, phase, shop)
  startDispatch submission state :=
    let (phase, shop) := served work cues state
    ((shop.channel.dispatch submission).1.mapError .undelivered,
      state.1 + 1, phase, shop.visit (.dispatch submission))
  pollFlush state := (.ready (.ok ()), state.1 + 1, served work cues state)
  pollClose state :=
    let (phase, shop) := served work cues state
    (.ready (.ok ()), state.1 + 1, phase, shop.visit .close)
  pollReply state :=
    let (phase, shop) := served work cues state
    let outcome := match shop.channel.collect.1 with
      | .pending => .pending
      | .ready none => .ready (.error .stopped)
      | .ready (some reply) => .ready (.ok reply)
    (outcome, state.1 + 1, phase, shop.visit .collect)

/-- Leaves alone what is the client's. -/
structure Discreet (work : κ → Φ → Shop V τ → (Move × Φ) × Shop V τ) : Prop where
  collecting : ∀ cue phase shop,
    (outcome (work cue phase shop)).2.channel.collecting = shop.channel.collecting
  accepted : ∀ cue phase shop,
    (outcome (work cue phase shop)).2.all Deal.accepted? = shop.all Deal.accepted?
  collected : ∀ cue phase shop,
    (outcome (work cue phase shop)).2.all Deal.collected? = shop.all Deal.collected?

section Counter

variable {work : κ → Φ → Shop V τ → (Move × Φ) × Shop V τ} {cues : ℕ → List κ}

/-- What a call on the client's side does, the worker's phases before it apart. -/
theorem counter_make (state state' : ℕ × Φ × Shop V τ) {call : FlowCall V FlowError}
    (hmake : (counter work cues).make state call.ask = (call, state')) :
    ∃ step : Option (Client V),
      state'.2 = after work (step.toList.map .inl) (served work cues state) ∧
      ((served work cues state).2.channel.collecting = true →
        state'.2.2.channel.collecting = true ∧
        state'.2.2.all Deal.accepted? =
          (served work cues state).2.all Deal.accepted? ++ call.accepted?.toList ∧
        state'.2.2.all Deal.collected? =
          (served work cues state).2.all Deal.collected? ++ call.collected?.toList) := by
  rcases hserved : served work cues state with ⟨phase, shop⟩
  cases call with
  | ready answer =>
    obtain ⟨-, rfl⟩ := Prod.mk.inj hmake
    exact ⟨none, by simp [counter, hserved, after], by simp [counter, hserved, FlowCall.accepted?,
      FlowCall.collected?]⟩
  | flush answer =>
    obtain ⟨-, rfl⟩ := Prod.mk.inj hmake
    exact ⟨none, by simp [counter, hserved, after], by simp [counter, hserved, FlowCall.accepted?,
      FlowCall.collected?]⟩
  | close answer =>
    obtain ⟨-, rfl⟩ := Prod.mk.inj hmake
    refine ⟨some .close, by simp [counter, hserved, after, next], fun hcollecting ↦ ?_⟩
    simpa [counter, hserved, FlowCall.accepted?, FlowCall.collected?, visit,
      Channel.closeSending] using hcollecting
  | dispatch submission answer =>
    obtain ⟨hcall, rfl⟩ := Prod.mk.inj hmake
    obtain ⟨-, rfl⟩ := FlowCall.dispatch.inj hcall
    refine ⟨some (.dispatch submission), by simp [counter, hserved, after, next],
      fun hcollecting ↦ ?_⟩
    rcases hsending : shop.channel.sending <;> rcases hworking : shop.channel.working <;>
      simpa [counter, hserved, FlowCall.accepted?, FlowCall.collected?, visit, Channel.dispatch,
        Except.mapError, hsending, hworking] using hcollecting
  | reply answer =>
    obtain ⟨hcall, rfl⟩ := Prod.mk.inj hmake
    obtain rfl := FlowCall.reply.inj hcall
    refine ⟨some .collect, by simp [counter, hserved, after, next], fun hcollecting ↦ ?_⟩
    replace hcollecting : shop.channel.collecting = true := hcollecting
    rcases hreplies : shop.channel.replies <;> rcases hworking : shop.channel.working <;>
      simp [counter, hserved, FlowCall.accepted?, FlowCall.collected?, visit, Channel.collect,
        hcollecting, hreplies, hworking]

/-- The phases of a worker leave alone what is the client's. -/
theorem Discreet.after (hdiscreet : Discreet work) (cues : List κ) (state : Φ × Shop V τ) :
    let shop := (Shop.after work (cues.map .inr) state).2
    shop.channel.collecting = state.2.channel.collecting ∧
      shop.all Deal.accepted? = state.2.all Deal.accepted? ∧
        shop.all Deal.collected? = state.2.all Deal.collected? := by
  induction cues generalizing state with
  | nil => exact ⟨rfl, rfl, rfl⟩
  | cons cue cues ih =>
    obtain ⟨hcollecting, haccepted, hcollected⟩ := ih (next work (.inr cue) state)
    exact ⟨hcollecting.trans (hdiscreet.collecting cue state.1 state.2),
      haccepted.trans (hdiscreet.accepted cue state.1 state.2),
      hcollected.trans (hdiscreet.collected cue state.1 state.2)⟩

/-- Calls on the client's side are steps of a client, and are answered as the books say. -/
theorem counter_path (hdiscreet : Discreet work) {state state' : ℕ × Φ × Shop V τ}
    {calls : List (FlowCall V FlowError)} (hpath : (counter work cues).Path state calls state')
    (hcollecting : state.2.2.channel.collecting = true) :
    ∃ acts, state'.2 = after work acts state.2 ∧
      state'.2.2.all Deal.accepted? =
        state.2.2.all Deal.accepted? ++ calls.filterMap FlowCall.accepted? ∧
      state'.2.2.all Deal.collected? =
        state.2.2.all Deal.collected? ++ calls.filterMap FlowCall.collected? := by
  induction hpath with
  | nil state => exact ⟨[], rfl, by simp, by simp⟩
  | @cons state between state' call calls hmake _ ih =>
    obtain ⟨hcollecting', haccepted', hcollected'⟩ := hdiscreet.after (cues state.1) state.2
    obtain ⟨step, hbetween, hbooks⟩ := counter_make state between hmake
    obtain ⟨hcollects, haccepted, hcollected⟩ := hbooks (hcollecting'.trans hcollecting)
    obtain ⟨acts, hacts, haccepts, hcollects'⟩ := ih hcollects
    refine ⟨(cues state.1).map .inr ++ step.toList.map .inl ++ acts, ?_, ?_, ?_⟩
    · rw [after_append, after_append, hacts, hbetween]
      rfl
    · rw [haccepts, haccepted, served, haccepted', List.append_assoc]
      rcases hcall : call.accepted? <;> simp [hcall]
    · rw [hcollects', hcollected, served, hcollected', List.append_assoc]
      rcases hcall : call.collected? <;> simp [hcall]

end Counter

end Shop

/-! ### Replies that a run takes from a retrying worker -/

namespace Retry

open Shop

theorem discreet_tend (inner : Flow V τ ε) (describe : ε → String) (policy : Policy) :
    Shop.Discreet (tend inner describe policy) := by
  have hkept : ∀ {α : Type} (f : Shop V τ → α)
      (_ : ∀ state state' : Phase V × Shop V τ, Tended policy state state' → f state'.2 = f state.2)
      (cue : Cue) (phase : Phase V) (shop : Shop V τ),
      f (Shop.outcome (tend inner describe policy cue phase shop)).2 = f shop := by
    intro α f hf cue phase shop
    have hsteps := tended inner describe policy cue phase shop
    rw [Shop.next] at hsteps
    generalize Shop.outcome (tend inner describe policy cue phase shop) = state' at hsteps ⊢
    induction hsteps with
    | refl => rfl
    | tail _ hstep ih => exact (hf _ _ hstep).trans ih
  refine ⟨hkept (·.channel.collecting) fun _ _ hstep ↦ ?_, hkept _ fun _ _ hstep ↦ ?_,
    hkept _ fun _ _ hstep ↦ ?_⟩
  all_goals cases hstep <;> simp [Channel.dropWorker]

/-- A phase of a retrying worker keeps the books. -/
theorem booked_tended {policy : Policy} {state state' : Phase V × Shop V τ}
    (hbooked : state.2.Booked) (htended : Tended policy state state') : state'.2.Booked := by
  obtain ⟨⟨lost, hqueued, hlost⟩, lost', hreplied, hlost'⟩ := hbooked
  cases htended with
  | takes submission waiting deadline shop hsubmissions hdeadline =>
    exact ⟨⟨lost, by simpa [hsubmissions] using hqueued, hlost⟩, lost', by simpa using hreplied,
      hlost'⟩
  | sends ticket reply shop hcollecting hroom =>
    obtain rfl := hlost' hcollecting
    exact ⟨⟨lost, by simpa using hqueued, hlost⟩, [], by simp_all, fun _ ↦ rfl⟩
  | crashes phase shop =>
    exact ⟨⟨shop.channel.submissions ++ lost, by simpa [Channel.dropWorker] using hqueued, nofun⟩,
      lost', hreplied, hlost'⟩
  | stops phase shop hover =>
    exact ⟨⟨shop.channel.submissions ++ lost, by simpa [Channel.dropWorker] using hqueued, nofun⟩,
      lost', hreplied, hlost'⟩
  | ends | flushes | abandons | stirs | wakes =>
    exact ⟨⟨lost, hqueued, hlost⟩, lost', hreplied, hlost'⟩
  | attempts | passesOn | retries | returns =>
    exact ⟨⟨lost, by simpa using hqueued, hlost⟩, lost', by simpa using hreplied, hlost'⟩

theorem booked_after (inner : Flow V τ ε) (describe : ε → String) (policy : Policy) (buffer : ℕ)
    (behind : τ) (acts : List (Client V ⊕ Cue)) :
    (Shop.after (tend inner describe policy) acts (.next, Shop.opened buffer behind)).2.Booked :=
  Shop.after_induction_of_steps (P := fun state ↦ state.2.Booked) (tended inner describe policy)
    (fun h ↦ h.visited) booked_tended (Shop.booked_opened buffer behind) acts

/-- In an unfinished round nothing has been sent. -/
theorem Standing.unsent {policy : Policy} {phase : Phase V} {rest : List (Deal V)}
    (hrest : Standing policy phase rest) : rest.filterMap Deal.sent? = [] := by
  induction hrest with
  | parted _ _ _ _ _ ih => exact ih
  | _ =>
    simp only [Round.deals, List.filterMap_cons, List.filterMap_append, attemptsAt_sent, Deal.sent?,
      List.filterMap_nil, List.append_nil]

/-- Rounds are about the submissions taken, and what is sent are their replies. -/
theorem all_of_rounds {policy : Policy} {phase : Phase V} {rounds : List (Round V)}
    {rest : List (Deal V)} {shop : Shop V τ}
    (hworked : shop.all Deal.worked? = rounds.flatMap Round.whole ++ rest)
    (hrest : Standing policy phase rest) :
    shop.all Deal.taken? = rounds.map Round.submission ++ rest.filterMap Deal.taken? ∧
      shop.all Deal.sent? = rounds.map Round.reply := by
  have htaken : ∀ round : Round V, round.whole.filterMap Deal.taken? = [round.submission] := by
    intro round
    simp [Round.whole, Round.deals, attemptsAt_taken]
  have hsent : ∀ round : Round V, round.whole.filterMap Deal.sent? = [round.reply] := by
    intro round
    simp only [Round.whole, Round.deals, List.filterMap_cons, List.filterMap_append,
      attemptsAt_sent, Deal.sent?, List.filterMap_nil, List.nil_append]
  rw [shop.all_of_worked.1, shop.all_of_worked.2, hworked,
    List.filterMap_append, List.filterMap_append, hrest.unsent, List.filterMap_flatMap,
    List.filterMap_flatMap]
  simp [htaken, hsent, ← List.map_eq_flatMap]

/-- The reply collected in some place is that of the round in this place, and the round is about the
submission accepted in this place. -/
theorem round_of_collected {policy : Policy} {phase : Phase V} {rounds : List (Round V)}
    {rest : List (Deal V)} {shop : Shop V τ}
    (hworked : shop.all Deal.worked? = rounds.flatMap Round.whole ++ rest)
    (hrest : Standing policy phase rest) (hbooked : shop.Booked) {place : ℕ}
    {submission : Submission V} {reply : Reply V}
    (haccepted : (shop.all Deal.accepted?)[place]? = some submission)
    (hcollected : (shop.all Deal.collected?)[place]? = some reply) :
    ∃ round, rounds[place]? = some round ∧ round.submission = submission ∧ round.reply = reply := by
  obtain ⟨⟨lost, hqueued, -⟩, lost', hreplied, -⟩ := hbooked
  obtain ⟨htaken, hsent⟩ := all_of_rounds hworked hrest
  have hreply : (rounds.map Round.reply)[place]? = some reply := by
    obtain ⟨hlt, -⟩ := List.getElem?_eq_some_iff.mp hcollected
    rw [← hsent, hreplied, List.append_assoc, List.getElem?_append_left hlt, hcollected]
  obtain ⟨round, hround, rfl⟩ : ∃ round, rounds[place]? = some round ∧ round.reply = reply := by
    simpa [List.getElem?_map, Option.map_eq_some_iff] using hreply
  have hsubmission : (rounds.map Round.submission)[place]? = some round.submission := by
    rw [List.getElem?_map, hround, Option.map_some]
  obtain ⟨more, hmore⟩ : rounds.map Round.submission <+: shop.all Deal.accepted? :=
    ⟨_, by rw [hqueued, htaken, List.append_assoc, List.append_assoc]⟩
  obtain ⟨hlt, -⟩ := List.getElem?_eq_some_iff.mp hsubmission
  rw [← hmore, List.getElem?_append_left hlt, hsubmission] at haccepted
  exact ⟨round, hround, Option.some.inj haccepted, rfl⟩

end Retry

/-- What an intact run dispatched was accepted. -/
theorem Intact.accepted {past : List (Happening V S ε)} (hintact : Intact past) :
    (callsIn past).filterMap FlowCall.accepted? = dispatchedIn past := by
  induction past using List.reverseRecOn with
  | nil => rfl
  | append_singleton past happening ih =>
    have hunbroken := hintact past happening [] rfl
    rw [callsIn_append, List.filterMap_append, dispatchedIn_append,
      ih hintact.of_append]
    rcases happening with (_ | ⟨submission, e | _⟩ | _ | _ | _) | _ | _
    case call.dispatch.error => cases hunbroken _ rfl
    all_goals rfl

/-- The replies that a run took, with their answers. -/
theorem answersIn_eq (past : List (Happening V S ε)) :
    answersIn past = ((callsIn past).filterMap FlowCall.collected?).map Reply.answer := by
  rw [answersIn, callsIn, List.filterMap_filterMap, List.map_filterMap]
  congr 1
  funext happening
  rcases happening with (_ | _ | _ | _ | _ | _ | _) | _ | _ <;> rfl

namespace Course

open Retry

/-- Whatever the flow behind does: what a run takes from a retrying worker is the reply to the last
attempt at the submission in flight, as it came. If that is under another ticket, the run returns
this as its last item. -/
theorem last_reply_decides [Resumes V S] (inner : Flow V τ ε) (describe : ε → String)
    (policy : Policy) (buffer : ℕ) (behind : τ) (cues : ℕ → List Retry.Cue) (plan : Plan V S)
    (n : ℕ) :
    let flow := Shop.counter (tend inner describe policy) cues
    let c := after flow plan (0, .next, Shop.opened buffer behind) n
    ∃ (rounds : List (Round V)) (rest : List (Deal V)),
      c.state.2.2.all Deal.worked? = rounds.flatMap Round.whole ++ rest ∧
      (∀ round ∈ rounds, round.Obeys policy) ∧
      ∀ past reply later, c.history = past ++ .call (.reply (.ready (.ok reply))) :: later →
        ∃ round, rounds[(answersIn past).length]? = some round ∧ round.reply = reply ∧
          (dispatchedIn past).getLast? = some round.submission ∧
          (reply.ticket ≠ round.submission.ticket → ∃ m, later =
            .returned (.ready (some (.error
              (.desynchronized round.submission.ticket reply.ticket)))) ::
                List.replicate m (.returned (.ready none))) := by
  intro flow c
  obtain ⟨acts, hacts, haccepted, hcollected⟩ :=
    Shop.counter_path (discreet_tend inner describe policy)
      (path_after flow plan (0, .next, Shop.opened buffer behind) n) rfl
  obtain ⟨rounds, rest, hworked, hrounds, hrest⟩ : Accounted policy c.state.2 :=
    hacts ▸ accounted_after inner describe policy buffer behind acts
  have hbooked : c.state.2.2.Booked := hacts ▸ booked_after inner describe policy buffer behind acts
  refine ⟨rounds, rest, hworked, hrounds, fun past reply later hhistory ↦ ?_⟩
  obtain ⟨hintact, submission, ⟨later', hflight⟩, before, hbefore, hlength⟩ :=
    serving_of_reply flow plan _ n hhistory
  have hcalls : callsIn c.history =
      callsIn past ++ .reply (.ready (.ok reply)) :: callsIn later := by
    rw [hhistory, callsIn_append]
    rfl
  rw [hcalls, List.filterMap_append] at haccepted hcollected
  have hsubmission : (c.state.2.2.all Deal.accepted?)[(answersIn past).length]? =
      some submission := by
    rw [haccepted, hintact.accepted, hbefore, hlength]
    simp [Shop.opened, Shop.all]
  have hreply : (c.state.2.2.all Deal.collected?)[(answersIn past).length]? = some reply := by
    rw [hcollected, answersIn_eq]
    simp [FlowCall.collected?, Shop.opened, Shop.all]
  obtain ⟨round, hround, rfl, rfl⟩ := round_of_collected hworked hrest hbooked hsubmission hreply
  refine ⟨round, hround, rfl, by simp [hbefore], fun hticket ↦
    (intactOrCut_after flow plan _ n).later_eq hhistory ?_⟩
  simp [FlowCall.breach?, hflight.lastTicket, hticket]

/-- A response that comes under the fifth ticket where the first is in flight. -/
theorem last_reply_decides_of_wrong_ticket :
    let request : Request (Payload values) :=
      { route := ⟨.get, "/"⟩, decode := fun _ ↦ .ok none, label := "Get" }
    let wrong : Reply values := ⟨⟨5⟩, .success (Carried.erase (7 : UInt8))⟩
    let cues : ℕ → List Retry.Cue := fun _ ↦ [⟨0, true⟩, ⟨0, true⟩, ⟨0, true⟩]
    let flow := Shop.counter (tend (replaying values) id (.scheduled (fun _ ↦ true) [])) cues
    let plan : Erased values := .submit request
    let c := after flow plan (0, .next, Shop.opened 1 [wrong]) 3
    ∃ past later m, c.history = past ++ .call (.reply (.ready (.ok wrong))) :: later ∧
      later = .returned (.ready (some (.error (.desynchronized ⟨0⟩ ⟨5⟩)))) ::
        List.replicate m (.returned (.ready none)) := by
  intro request wrong cues flow plan c
  have hhistory : c.history = [.call (.ready (.ready (.ok ()))),
      .call (.dispatch ⟨⟨0⟩, request⟩ (.ok ())), .call (.flush (.ready (.ok ())))] ++
        .call (.reply (.ready (.ok wrong))) ::
          [.returned (.ready (some (.error (.desynchronized ⟨0⟩ ⟨5⟩)))),
           .returned (.ready none)] := by
    rfl
  obtain ⟨rounds, rest, -, -, hdecides⟩ :=
    last_reply_decides (replaying values) id (.scheduled (fun _ ↦ true) []) 1 [wrong] cues plan 3
  obtain ⟨round, -, -, hsubmission, hlast⟩ := hdecides _ wrong _ hhistory
  have hround : (⟨⟨0⟩, request⟩ : Submission values) = round.submission :=
    Option.some.inj hsubmission
  rw [← hround] at hlast
  obtain ⟨m, hlater⟩ := hlast (by decide)
  exact ⟨_, _, m, hhistory, hlater⟩

/-- The reply to the first attempt comes under the fifth ticket where the first is in flight, and as
the submission is attempted again, the run yields the value that comes next. -/
theorem wrong_ticket_hidden :
    let request : Request (Payload values) :=
      { route := ⟨.get, "/"⟩, decode := fun _ ↦ .ok none, label := "Get" }
    let wrong : Reply values := ⟨⟨5⟩, .failure (.rateLimited false none)⟩
    let value := Carried.erase (7 : UInt8)
    let policy := Policy.scheduled (· matches .rateLimited _ _) [.zero]
    let cues : ℕ → List Retry.Cue := fun _ ↦ [⟨0, true⟩, ⟨0, true⟩, ⟨0, true⟩]
    let flow := Shop.counter (tend (replaying values) id policy) cues
    let plan : Erased values := .submit request
    let c := after flow plan (0, .next, Shop.opened 1 [wrong, ⟨⟨0⟩, .success value⟩]) 4
    (.answered wrong ∈ c.state.2.2.deals ∧ dispatchedIn c.history = [⟨⟨0⟩, request⟩]) ∧
      c.trace = [.dispatched ⟨⟨0⟩, request⟩, .yielded value] ∧
        c.history.getLast? = some (.returned (.ready none)) := by
  intro request wrong value policy cues flow plan c
  have hdeals : c.state.2.2.deals = [.accepted ⟨⟨0⟩, request⟩, .taken ⟨⟨0⟩, request⟩,
      .attempted ⟨⟨0⟩, request⟩, .answered wrong, .attempted ⟨⟨0⟩, request⟩,
      .answered ⟨⟨0⟩, .success value⟩, .sent ⟨⟨0⟩, .success value⟩,
      .collected ⟨⟨0⟩, .success value⟩] := by
    rfl
  have hhistory : c.history = [Happening.call (.ready (.ready (.ok ()))),
      .call (.dispatch ⟨⟨0⟩, request⟩ (.ok ())), .call (.flush (.ready (.ok ()))),
      .call (.reply (.ready (.ok ⟨⟨0⟩, .success value⟩))), .returned (.ready (some (.ok value))),
      .call (.close (.ready (.ok ()))), .returned (.ready none), .returned (.ready none)] := by
    rfl
  have htrace : c.trace = [.dispatched ⟨⟨0⟩, request⟩, .yielded value] := by
    rw [Course.trace, hhistory]
    rfl
  exact ⟨⟨by simp [hdeals], by rw [hhistory]; rfl⟩, htrace, by rw [hhistory]; rfl⟩

end Course

end Errand
