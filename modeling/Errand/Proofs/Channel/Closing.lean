import Errand.Proofs.Channel.Retrying
import Errand.Proofs.Run.Termination

/-!
What a retrying worker asks of the flow behind it, in whatever order the client and the worker go
on. As long as it serves, it asks for exchanges only, and none of them breaks down. It leaves off
because nothing more is to come, because nobody collects or because the flow broke down
(`Leaves`, `closing_iff_leaves`), and in each of these cases it closes the flow, once, and asks
nothing more of it (`Asked`, `asked_after`).
-/

set_option autoImplicit false

namespace Errand

variable {V : ValueTypes} {τ ε : Type}

namespace FlowCall

/-- The flow broke down at the call. -/
def breaks : FlowCall V ε → Bool
  | ready (.ready (.error _)) | dispatch _ (.error _) | flush (.ready (.error _))
  | reply (.ready (.error _)) => true
  | _ => false

def asksToClose : FlowCall V ε → Bool
  | close _ => true
  | _ => false

/-- The flow is closed, well or not. -/
def isClosed : FlowCall V ε → Bool
  | close (.ready _) => true
  | _ => false

/-- The call is part of an exchange that did not break down at it. -/
def GoesOn (call : FlowCall V ε) : Prop := call.breaks = false ∧ call.asksToClose = false

theorem GoesOn.not_isClosed {call : FlowCall V ε} (hgoesOn : call.GoesOn) :
    call.isClosed = false := by
  obtain ⟨-, hclose⟩ := hgoesOn
  cases call with
  | close answer => cases hclose
  | _ => rfl

end FlowCall

/-! ### Exchanges -/

/-- What an exchange asked of its flow on the way: its calls went on, but for the last one where it
came to nothing. -/
def Exchange.Asks : Exchange V ε → List (FlowCall V ε) → Prop
  | waiting _, calls => ∀ call ∈ calls, call.GoesOn
  | replied answer, calls =>
    (∀ call ∈ calls, call.GoesOn) ∧ .reply (.ready (.ok answer)) ∈ calls
  | refused _, calls | lost _, calls =>
    ∃ before call, calls = before ++ [call] ∧ (∀ call ∈ before, call.GoesOn) ∧ call.breaks = true

/-- The reply that an exchange came to. -/
def Exchange.answered : Exchange V ε → List (Deal V)
  | replied reply => [.answered reply]
  | waiting _ | refused _ | lost _ => []

theorem Exchange.Asks.cons {exchange : Exchange V ε} {calls : List (FlowCall V ε)}
    (hasks : exchange.Asks calls) {call : FlowCall V ε} (hcall : call.GoesOn) :
    exchange.Asks (call :: calls) := by
  cases exchange with
  | waiting stage => exact List.forall_mem_cons.mpr ⟨hcall, hasks⟩
  | replied answer =>
    exact ⟨List.forall_mem_cons.mpr ⟨hcall, hasks.1⟩, List.mem_cons_of_mem _ hasks.2⟩
  | refused e | lost e =>
    obtain ⟨before, last, rfl, hbefore, hlast⟩ := hasks
    exact ⟨call :: before, last, rfl, List.forall_mem_cons.mpr ⟨hcall, hbefore⟩, hlast⟩

namespace Stage

theorem asks_await (inner : Flow V τ ε) (t : τ) :
    (Stage.poll inner .await t).1.Asks (calls inner .await t) := by
  rw [calls_await]
  rcases hreply : inner.pollReply t with ⟨_ | e | reply, t'⟩
  · simp [poll, pollAwait, hreply, Exchange.Asks, FlowCall.GoesOn, FlowCall.breaks,
      FlowCall.asksToClose]
  · simp only [poll, pollAwait, hreply]
    exact ⟨[], _, rfl, List.forall_mem_nil _, rfl⟩
  · simp [poll, pollAwait, hreply, Exchange.Asks, FlowCall.GoesOn, FlowCall.breaks,
      FlowCall.asksToClose]

theorem asks_flush (inner : Flow V τ ε) (t : τ) :
    (Stage.poll inner .flush t).1.Asks (calls inner .flush t) := by
  rcases hflush : inner.pollFlush t with ⟨_ | e | _, t'⟩
  · simp [poll, pollFlush, calls, Flow.recorded_pollFlush, hflush, Exchange.Asks, FlowCall.GoesOn,
      FlowCall.breaks, FlowCall.asksToClose]
  · simp only [poll, pollFlush, calls, Flow.recorded_pollFlush, hflush]
    exact ⟨[], _, rfl, List.forall_mem_nil _, rfl⟩
  · rw [calls_flush hflush]
    simp only [poll, pollFlush, hflush]
    exact (asks_await inner t').cons ⟨rfl, rfl⟩

theorem asks_dispatch (inner : Flow V τ ε) (submission : Submission V) (t : τ) :
    (Stage.poll inner (.dispatch submission) t).1.Asks (calls inner (.dispatch submission) t) := by
  rcases hready : inner.pollReady t with ⟨_ | e | _, t'⟩
  · simp [poll, pollDispatch, calls, Flow.recorded_pollReady, hready, Exchange.Asks,
      FlowCall.GoesOn, FlowCall.breaks, FlowCall.asksToClose]
  · simp only [poll, pollDispatch, calls, Flow.recorded_pollReady, hready]
    exact ⟨[], _, rfl, List.forall_mem_nil _, rfl⟩
  · rcases hstart : inner.startDispatch submission t' with ⟨e | _, t''⟩
    · simp only [poll, pollDispatch, calls, Flow.recorded_pollReady, Flow.recorded_startDispatch,
        hready, hstart]
      exact ⟨[_], _, rfl, by simp [FlowCall.GoesOn, FlowCall.breaks, FlowCall.asksToClose], rfl⟩
    · rw [calls_dispatch hready hstart]
      simp only [poll, pollDispatch, hready, hstart]
      exact ((asks_flush inner t'').cons ⟨rfl, rfl⟩).cons ⟨rfl, rfl⟩

theorem asks (inner : Flow V τ ε) (stage : Stage V) (t : τ) :
    (stage.poll inner t).1.Asks (stage.calls inner t) := by
  cases stage with
  | dispatch submission => exact asks_dispatch inner submission t
  | flush => exact asks_flush inner t
  | await => exact asks_await inner t

/-- Driven over the flow behind a shop, an exchange comes as far as over the flow alone, with these
attempts. -/
def Behind (inner : Flow V τ ε) (stage : Stage V) (made : List (Deal V)) (shop : Shop V τ) : Prop :=
  stage.poll inner.behind shop = ((stage.poll inner shop.behind).1,
    { shop with
      behind := (stage.poll inner shop.behind).2
      deals := shop.deals ++ (made ++ (stage.poll inner shop.behind).1.answered) })

theorem behind_await (inner : Flow V τ ε) (shop : Shop V τ) : Behind inner .await [] shop := by
  rcases hreply : inner.pollReply shop.behind with ⟨_ | e | reply, t⟩ <;>
    simp [Behind, poll, pollAwait, Flow.behind, hreply, Exchange.answered, Shop.deal]

theorem behind_flush (inner : Flow V τ ε) (shop : Shop V τ) : Behind inner .flush [] shop := by
  rcases hflush : inner.pollFlush shop.behind with ⟨_ | e | _, t⟩
  · simp [Behind, poll, pollFlush, Flow.behind, hflush, Exchange.answered]
  · simp [Behind, poll, pollFlush, Flow.behind, hflush, Exchange.answered]
  · have hawait := behind_await inner { shop with behind := t }
    have hflush' : inner.behind.pollFlush shop = (.ready (.ok ()), { shop with behind := t }) := by
      simp [Flow.behind, hflush]
    simpa only [Behind, poll, pollFlush, hflush', hflush] using hawait

theorem behind_dispatch (inner : Flow V τ ε) (submission : Submission V) (shop : Shop V τ) :
    Behind inner (.dispatch submission) [] shop ∨
      Behind inner (.dispatch submission) [.attempted submission] shop := by
  rcases hready : inner.pollReady shop.behind with ⟨_ | e | _, t⟩
  · exact Or.inl (by simp [Behind, poll, pollDispatch, Flow.behind, hready, Exchange.answered])
  · exact Or.inl (by simp [Behind, poll, pollDispatch, Flow.behind, hready, Exchange.answered])
  · rcases hstart : inner.startDispatch submission t with ⟨e | _, t'⟩
    · right
      simp [Behind, poll, pollDispatch, Flow.behind, hready, hstart, Exchange.answered, Shop.deal]
    · have hflush := behind_flush inner ({ shop with behind := t' }.deal (.attempted submission))
      have hready' : inner.behind.pollReady shop =
          (.ready (.ok ()), { shop with behind := t }) := by
        simp [Flow.behind, hready]
      have hstart' : inner.behind.startDispatch submission { shop with behind := t } =
          (.ok (), { shop with behind := t' }.deal (.attempted submission)) := by
        simp [Flow.behind, hstart]
      right
      simpa [Behind, poll, pollDispatch, hready', hready, hstart', hstart, Shop.deal] using hflush

/-- What an exchange at this stage may attempt. -/
def Attempts (stage : Stage V) (made : List (Deal V)) : Prop :=
  made = [] ∨ ∃ submission, stage = .dispatch submission ∧ made = [.attempted submission]

theorem poll_behind (inner : Flow V τ ε) (stage : Stage V) (shop : Shop V τ) :
    ∃ made, stage.Attempts made ∧ Behind inner stage made shop := by
  cases stage with
  | dispatch submission =>
    rcases behind_dispatch inner submission shop with hbehind | hbehind
    · exact ⟨_, Or.inl rfl, hbehind⟩
    · exact ⟨_, Or.inr ⟨submission, rfl, rfl⟩, hbehind⟩
  | flush => exact ⟨_, Or.inl rfl, behind_flush inner shop⟩
  | await => exact ⟨_, Or.inl rfl, behind_await inner shop⟩

end Stage

namespace Retry

open Shop

/-- A shop whose flow behind is recorded. -/
abbrev Ledger (V : ValueTypes) (τ ε : Type) := Shop V (τ × List (FlowCall V ε))

/-- What the next phase of a worker counts from its instant on: the time limit if a submission is
taken, the wait before a retry if an attempt fails. -/
inductive Policy.Counts (policy : Policy) (inner : Flow V τ ε) :
    Phase V × Ledger V τ ε → Duration → Prop where
  | deadline (shop : Ledger V τ ε) (timeout : Duration)
    (hsubmissions : shop.channel.submissions ≠ []) (htimeout : policy.timeout = some timeout) :
    Counts policy inner (.next, shop) timeout
  | wakeUp (attempt : Attempt V) (stage : Stage V) (shop : Ledger V τ ε) (reply : Reply V)
    (cause : Failure) (delay : Duration)
    (hreply : (stage.poll inner shop.behind.1).1 = .replied reply)
    (hanswer : reply.answer = .failure cause)
    (hrecover : policy.recover ⟨attempt.submission.ticket, attempt.retries⟩ cause =
      .retryAfter delay) :
    Counts policy inner (.trying attempt stage, shop) (waitFor cause delay)

/-- The clock tells the instant that the next phase counts to, if it counts at all. -/
def Policy.Reckons (policy : Policy) (inner : Flow V τ ε) (state : Phase V × Ledger V τ ε)
    (instant : ℕ) : Prop :=
  ∀ duration, policy.Counts inner state duration → after? instant duration ≠ none

/-- What a phase of the worker comes to, with what it asks of the flow behind. -/
inductive Proceeds (inner : Flow V τ ε) (policy : Policy) (instant : ℕ) :
    Phase V × Ledger V τ ε → Phase V × Ledger V τ ε → Prop where
  | serves (phase phase' : Phase V) (shop shop' : Ledger V τ ε) (calls : List (FlowCall V ε))
    (hphase : phase.isOver = false) (hphase' : phase'.isOver = false)
    (hrecord : shop'.behind.2 = shop.behind.2 ++ calls) (hcalls : ∀ call ∈ calls, call.GoesOn) :
    Proceeds inner policy instant (phase, shop) (phase', shop')
  | crashes (phase : Phase V) (shop shop' : Ledger V τ ε) (calls : List (FlowCall V ε))
    (hphase : phase.isOver = false) (hrecord : shop'.behind.2 = shop.behind.2 ++ calls)
    (hcalls : ∀ call ∈ calls, call.GoesOn)
    (hclock : ¬ policy.Reckons inner (phase, shop) instant) :
    Proceeds inner policy instant (phase, shop) (.crashed, shop')
  | ends (shop : Ledger V τ ε) (hsubmissions : shop.channel.submissions = [])
    (hsending : shop.channel.sending = false) :
    Proceeds inner policy instant (.next, shop) (.closing, shop)
  | returns (ticket : Ticket) (reply : Reply V) (shop : Ledger V τ ε)
    (hcollecting : shop.channel.collecting = false) :
    Proceeds inner policy instant (.replying ticket reply, shop)
      (.closing, shop.deal (.returned reply))
  | breaks (attempt : Attempt V) (stage : Stage V) (shop shop' : Ledger V τ ε)
    (calls : List (FlowCall V ε)) (call : FlowCall V ε)
    (hrecord : shop'.behind.2 = shop.behind.2 ++ calls ++ [call])
    (hcalls : ∀ call ∈ calls, call.GoesOn) (hcall : call.breaks = true)
    (made : List (Deal V)) (hmade : stage.Attempts made)
    (hworked : shop'.all Deal.worked? = shop.all Deal.worked? ++ made) :
    Proceeds inner policy instant (.trying attempt stage, shop) (.closing, shop')
  | waits (shop : Ledger V τ ε) (t : τ) (hclose : inner.pollClose shop.behind.1 = (.pending, t)) :
    Proceeds inner policy instant (.closing, shop)
      (.closing, { shop with behind := (t, shop.behind.2 ++ [.close .pending]) })
  | stops (shop : Ledger V τ ε) (t : τ) (outcome : Except ε Unit)
    (hclose : inner.pollClose shop.behind.1 = (.ready outcome, t)) :
    Proceeds inner policy instant (.closing, shop)
      (.stopped, { shop with
        behind := (t, shop.behind.2 ++ [.close (.ready outcome)])
        channel := shop.channel.dropWorker })
  | rests (shop : Ledger V τ ε) : Proceeds inner policy instant (.stopped, shop)
    (.stopped, { shop with channel := shop.channel.dropWorker })
  | remains (shop : Ledger V τ ε) : Proceeds inner policy instant (.crashed, shop)
    (.crashed, { shop with channel := shop.channel.dropWorker })

section Proceeds

variable (inner : Flow V τ ε) (describe : ε → String) (policy : Policy) (cue : Cue)
  (attempt : Attempt V) (shop : Ledger V τ ε)

/-- What comes of an exchange after these calls. -/
theorem proceeds_resolve (stage : Stage V) {exchange : Exchange V ε} {shop' : Ledger V τ ε}
    {calls : List (FlowCall V ε)} (hexchange : (stage.poll inner shop.behind.1).1 = exchange)
    (hasks : exchange.Asks calls)
    (hrecord : shop'.behind.2 = shop.behind.2 ++ calls)
    {made : List (Deal V)} (hmade : stage.Attempts made)
    (hworked : shop'.all Deal.worked? = shop.all Deal.worked? ++ (made ++ exchange.answered)) :
    Proceeds inner policy cue.instant (.trying attempt stage, shop)
      (Shop.outcome (resolve describe policy cue attempt (exchange, shop'))) := by
  have hserves := fun (phase : Phase V) (hcalls : ∀ call ∈ calls, call.GoesOn) hphase ↦
    @Proceeds.serves V τ ε inner policy cue.instant (.trying attempt stage) phase shop shop' calls
      rfl hphase hrecord hcalls
  cases exchange with
  | waiting stage' => exact hserves _ hasks rfl
  | refused e | lost e =>
    obtain ⟨before, call, rfl, hbefore, hcall⟩ := hasks
    rw [← List.append_assoc] at hrecord
    exact .breaks attempt stage shop shop' before call hrecord hbefore hcall made hmade
      (by rw [hworked, Exchange.answered, List.append_nil])
  | replied reply =>
    obtain ⟨hcalls, -⟩ := hasks
    rcases hanswer : reply.answer with value | _ | cause
    · simpa [resolve, hanswer, Shop.outcome] using hserves _ hcalls rfl
    · simpa [resolve, hanswer, Shop.outcome] using hserves _ hcalls rfl
    · rcases hrecover : policy.recover ⟨attempt.submission.ticket, attempt.retries⟩ cause
        with delay | _
      · rcases hwakeUp : after? cue.instant (waitFor cause delay) with _ | wakeUp
        · have hclock : ¬ policy.Reckons inner (.trying attempt stage, shop) cue.instant :=
            fun hreckons ↦ hreckons _
              (.wakeUp attempt stage shop reply cause delay hexchange hanswer hrecover) hwakeUp
          simp only [resolve, hanswer, reconsider, hrecover, desk_log, desk_now, hwakeUp,
            Shop.outcome]
          exact .crashes _ _ _ calls rfl hrecord hcalls hclock
        · by_cases hlate : isLate attempt.deadline wakeUp = true
          · simpa [resolve, hanswer, reconsider, hrecover, hwakeUp, hlate, Shop.outcome] using
              hserves _ hcalls rfl
          · simpa [resolve, hanswer, reconsider, hrecover, hwakeUp, hlate, Shop.outcome] using
              hserves _ hcalls rfl
      · simpa [resolve, hanswer, reconsider, hrecover, Shop.outcome] using hserves _ hcalls rfl

/-- A worker that closes the flow behind has stopped once it is closed. -/
theorem next_closing :
    Shop.next (tend inner.recorded describe policy) (.inr cue) (.closing, shop) =
      match inner.pollClose shop.behind.1 with
      | (.pending, t) => (.closing, { shop with behind := (t, shop.behind.2 ++ [.close .pending]) })
      | (.ready outcome, t) => (.stopped, { shop with
          behind := (t, shop.behind.2 ++ [.close (.ready outcome)])
          channel := shop.channel.dropWorker }) := by
  rcases hclose : inner.pollClose shop.behind.1 with ⟨_ | _ | _, t⟩ <;>
    simp [Shop.next, Shop.outcome, tend, advance, Flow.behind, Flow.recorded, hclose]

theorem proceeds (phase : Phase V) : Proceeds inner policy cue.instant (phase, shop)
    (Shop.next (tend inner.recorded describe policy) (.inr cue) (phase, shop)) := by
  have hserves := fun (phase phase' : Phase V) (shop' : Ledger V τ ε) hphase hphase'
      (hbehind : shop'.behind = shop.behind) ↦
    @Proceeds.serves V τ ε inner policy cue.instant phase phase' shop shop' [] hphase hphase'
      (by rw [hbehind, List.append_nil]) nofun
  cases phase with
  | next =>
    rcases hsubmissions : shop.channel.submissions with _ | ⟨submission, waiting⟩
    · have htake := desk_next_nil cue.instant cue.rested hsubmissions
      rcases hsending : shop.channel.sending
      · simpa [Shop.next, Shop.outcome, tend, advance, htake, hsending] using
          Proceeds.ends shop hsubmissions hsending
      · simpa [Shop.next, Shop.outcome, tend, advance, htake, hsending] using
          hserves .next .next shop rfl rfl rfl
    · have htake := desk_next_cons cue.instant cue.rested hsubmissions
      rcases htimeout : policy.timeout with _ | timeout
      · simp only [Shop.next, Shop.outcome, tend, advance, htake, begin_, htimeout]
        exact hserves _ _ _ rfl rfl rfl
      · rcases hdeadline : after? cue.instant timeout with _ | deadline
        · simp only [Shop.next, Shop.outcome, tend, advance, htake, begin_, htimeout, desk_now,
            hdeadline]
          exact .crashes _ _ _ [] rfl (List.append_nil _).symm nofun fun hreckons ↦
            hreckons _ (.deadline shop timeout (by simp [hsubmissions]) htimeout) hdeadline
        · simp only [Shop.next, Shop.outcome, tend, advance, htake, begin_, htimeout, desk_now,
            hdeadline]
          exact hserves _ _ _ rfl rfl rfl
  | trying attempt stage =>
    obtain ⟨made, hmade, hbehind⟩ := Stage.poll_behind inner.recorded stage shop
    have hrecorded := stage.poll_recorded inner shop.behind.1 shop.behind.2
    rw [Shop.next, tend_trying, hbehind, hrecorded]
    refine proceeds_resolve inner describe policy cue attempt shop stage rfl
      (stage.asks inner shop.behind.1) rfl hmade ?_
    rw [Shop.all, Shop.all, List.filterMap_append]
    congr 1
    rcases hmade with rfl | ⟨submission, -, rfl⟩ <;>
      rcases (stage.poll inner shop.behind.1).1 with _ | _ | _ | _ <;> rfl
  | sleeping attempt wakeUp =>
    rcases hrested : cue.rested
    · simpa [Shop.next, Shop.outcome, tend, advance, hrested] using
        hserves (.sleeping attempt wakeUp) (.sleeping attempt wakeUp) shop rfl rfl rfl
    · simpa [Shop.next, Shop.outcome, tend, advance, hrested] using
        hserves (.sleeping attempt wakeUp) (.trying attempt (.dispatch attempt.submission)) shop
          rfl rfl rfl
  | replying ticket reply =>
    rcases hcollecting : shop.channel.collecting
    · simpa [Shop.next, Shop.outcome, tend, advance, desk_reply_left hcollecting] using
        Proceeds.returns ticket reply shop hcollecting
    · by_cases hroom : shop.channel.replies.length < shop.channel.capacity
      · simp only [Shop.next, Shop.outcome, tend, advance, desk_reply_room hcollecting hroom]
        exact hserves _ _ _ rfl rfl rfl
      · simp only [Shop.next, Shop.outcome, tend, advance, desk_reply_full hcollecting hroom]
        exact hserves _ _ _ rfl rfl rfl
  | closing =>
    rw [next_closing]
    rcases hclose : inner.pollClose shop.behind.1 with ⟨_ | outcome, t⟩
    · exact .waits shop t hclose
    · exact .stops shop t outcome hclose
  | stopped => exact .rests shop
  | crashed => exact .remains shop

end Proceeds

/-! ### What is asked of the flow behind -/

/-- What the flow behind has been asked by a worker in such a phase: exchanges, of which only the
last may have broken down; and, once the worker leaves off, to close until it is closed. -/
inductive Asked : Phase V → List (FlowCall V ε) → Prop where
  | serving (phase : Phase V) (served : List (FlowCall V ε)) (hclosing : phase ≠ .closing)
    (hstopped : phase ≠ .stopped) (hserved : ∀ call ∈ served, call.GoesOn) : Asked phase served
  | closing (served : List (FlowCall V ε)) (broken : Option (FlowCall V ε)) (waits : ℕ)
    (hserved : ∀ call ∈ served, call.GoesOn) (hbroken : ∀ call ∈ broken, call.breaks = true) :
    Asked .closing (served ++ broken.toList ++ List.replicate waits (.close .pending))
  | stopped (served : List (FlowCall V ε)) (broken : Option (FlowCall V ε)) (waits : ℕ)
    (outcome : Except ε Unit) (hserved : ∀ call ∈ served, call.GoesOn)
    (hbroken : ∀ call ∈ broken, call.breaks = true) :
    Asked .stopped (served ++ broken.toList ++ List.replicate waits (.close .pending) ++
      [.close (.ready outcome)])

namespace Asked

variable {inner : Flow V τ ε} {policy : Policy} {instant : ℕ} {phase : Phase V}
  {record : List (FlowCall V ε)}

theorem served (hasked : Asked phase record) (hphase : phase.isOver = false) :
    ∀ call ∈ record, call.GoesOn := by
  cases hasked with
  | serving _ _ _ _ hserved => exact hserved
  | closing | stopped => cases hphase

theorem proceeds {state state' : Phase V × Ledger V τ ε} (hasked : Asked state.1 state.2.behind.2)
    (hproceeds : Proceeds inner policy instant state state') :
    Asked state'.1 state'.2.behind.2 := by
  cases hproceeds with
  | serves phase phase' shop shop' calls hphase hphase' hrecord hcalls =>
    refine .serving phase' _ (by rintro rfl; cases hphase') (by rintro rfl; cases hphase') ?_
    rw [hrecord]
    exact List.forall_mem_append.mpr ⟨hasked.served hphase, hcalls⟩
  | crashes phase shop shop' calls hphase hrecord hcalls hclock =>
    refine .serving .crashed _ nofun nofun ?_
    rw [hrecord]
    exact List.forall_mem_append.mpr ⟨hasked.served hphase, hcalls⟩
  | ends shop hsubmissions hsending =>
    simpa using Asked.closing shop.behind.2 none 0 (hasked.served rfl) nofun
  | returns ticket reply shop hcollecting =>
    show Asked .closing shop.behind.2
    simpa using Asked.closing shop.behind.2 none 0 (hasked.served rfl) nofun
  | breaks attempt stage shop shop' calls call hrecord hcalls hcall =>
    have hserved : ∀ call ∈ shop.behind.2 ++ calls, call.GoesOn :=
      List.forall_mem_append.mpr ⟨hasked.served rfl, hcalls⟩
    rw [hrecord]
    simpa using Asked.closing (shop.behind.2 ++ calls) (some call) 0 hserved (by simpa using hcall)
  | waits shop t hclose =>
    generalize hrecord : shop.behind.2 = record at hasked
    cases hasked with
    | serving _ _ hclosing => exact absurd rfl hclosing
    | closing served broken waits hserved hbroken =>
      simpa [List.replicate_succ', hrecord] using
        Asked.closing served broken (waits + 1) hserved hbroken
  | stops shop t outcome hclose =>
    generalize hrecord : shop.behind.2 = record at hasked
    cases hasked with
    | serving _ _ hclosing => exact absurd rfl hclosing
    | closing served broken waits hserved hbroken =>
      simpa [hrecord] using Asked.stopped served broken waits outcome hserved hbroken
  | rests shop => exact hasked
  | remains shop => exact hasked

/-- A flow is closed once its worker has stopped, and not before. -/
theorem countP_isClosed (hasked : Asked phase record) :
    (phase = .stopped → record.countP FlowCall.isClosed = 1) ∧
      (phase ≠ .stopped → record.countP FlowCall.isClosed = 0) := by
  have hserves : ∀ {served : List (FlowCall V ε)}, (∀ call ∈ served, call.GoesOn) →
      served.countP FlowCall.isClosed = 0 := fun hserved ↦
    List.countP_eq_zero.mpr fun call hcall ↦ by simp [(hserved call hcall).not_isClosed]
  have hbreaks : ∀ {broken : Option (FlowCall V ε)}, (∀ call ∈ broken, call.breaks = true) →
      broken.toList.countP FlowCall.isClosed = 0 := by
    rintro (_ | call) hbroken
    · rfl
    · have hcall := hbroken call rfl
      cases call with
      | close answer => cases hcall
      | _ => rfl
  cases hasked with
  | serving _ _ hclosing hstopped hserved =>
    exact ⟨fun h ↦ absurd h hstopped, fun _ ↦ hserves hserved⟩
  | closing served broken waits hserved hbroken =>
    exact ⟨nofun, fun _ ↦ by
      simp [hserves hserved, hbreaks hbroken, List.countP_replicate, FlowCall.isClosed]⟩
  | stopped served broken waits outcome hserved hbroken =>
    exact ⟨fun _ ↦ by
      simp [hserves hserved, hbreaks hbroken, List.countP_replicate, FlowCall.isClosed],
      fun h ↦ absurd rfl h⟩

end Asked

section After

variable (inner : Flow V τ ε) (describe : ε → String) (policy : Policy)

theorem visit_behind (shop : Ledger V τ ε) (step : Client V) :
    (shop.visit step).behind = shop.behind := by
  have hvisited := shop.visited step
  generalize shop.visit step = shop' at hvisited
  cases hvisited <;> rfl

theorem asked_after (buffer : ℕ) (t : τ) (acts : List (Client V ⊕ Cue)) :
    let state := Shop.after (tend inner.recorded describe policy) acts
      (.next, Shop.opened buffer (t, []))
    Asked state.1 state.2.behind.2 := by
  refine Shop.after_induction
    (P := fun state : Phase V × Ledger V τ ε ↦ Asked state.1 state.2.behind.2)
    (.serving .next [] nofun nofun nofun) (fun act state hasked ↦ ?_) acts
  obtain ⟨phase, shop⟩ := state
  cases act with
  | inl step =>
    show Asked phase (shop.visit step).behind.2
    rwa [visit_behind]
  | inr cue => exact hasked.proceeds (proceeds inner describe policy cue shop phase)

/-- What was asked stays. -/
theorem record_prefix_next (act : Client V ⊕ Cue) (state : Phase V × Ledger V τ ε) :
    state.2.behind.2 <+:
      (Shop.next (tend inner.recorded describe policy) act state).2.behind.2 := by
  obtain ⟨phase, shop⟩ := state
  cases act with
  | inl step =>
    show shop.behind.2 <+: (shop.visit step).behind.2
    rw [visit_behind]
  | inr cue =>
    have hproceeds := proceeds inner describe policy cue shop phase
    generalize Shop.next (tend inner.recorded describe policy) (.inr cue) (phase, shop) = state'
      at *
    cases hproceeds with
    | serves _ _ _ _ calls _ _ hrecord | crashes _ _ _ calls _ hrecord =>
      exact ⟨calls, hrecord.symm⟩
    | breaks _ _ _ _ calls call hrecord => exact ⟨calls ++ [call], by simp [hrecord]⟩
    | ends | returns | rests | remains => exact List.prefix_rfl
    | waits | stops => exact List.prefix_append _ _

/-- Where the clock tells every instant that the worker came to count to, it has not crashed. -/
theorem not_crashed_after (buffer : ℕ) (t : τ) (acts : List (Client V ⊕ Cue))
    (hreckons : ∀ before cue later, acts = before ++ .inr cue :: later →
      policy.Reckons inner (Shop.after (tend inner.recorded describe policy) before
        (.next, Shop.opened buffer (t, []))) cue.instant) :
    (Shop.after (tend inner.recorded describe policy) acts
      (.next, Shop.opened buffer (t, []))).1 ≠ .crashed := by
  induction acts using List.reverseRecOn with
  | nil => exact nofun
  | append_singleton acts act ih =>
    have hbefore := ih fun before cue later hacts ↦
      hreckons before cue (later ++ [act]) (by simp [hacts])
    have hlast := hreckons acts
    rw [Shop.after_append, show Shop.after (tend inner.recorded describe policy) [act] =
      Shop.next (tend inner.recorded describe policy) act from rfl]
    generalize Shop.after (tend inner.recorded describe policy) acts _ = state at hbefore hlast ⊢
    obtain ⟨phase, shop⟩ := state
    cases act with
    | inl step => exact hbefore
    | inr cue =>
      have hclock := hlast cue [] rfl
      have hproceeds := proceeds inner describe policy cue shop phase
      generalize Shop.next (tend inner.recorded describe policy) (.inr cue) (phase, shop) = state'
        at hproceeds ⊢
      cases hproceeds with
      | crashes _ _ _ _ _ _ _ hlate => exact absurd hclock hlate
      | remains => exact absurd rfl hbefore
      | serves _ _ _ _ _ _ hphase' => rintro rfl; cases hphase'
      | ends | returns | breaks | waits | stops | rests => exact nofun

/-! ### Leaving off -/

/-- Why the worker leaves off serving. -/
inductive Leaves : Phase V → Ledger V τ ε → Ledger V τ ε → Prop where
  /-- The client has closed its sending half, or dropped it, and everything has been taken. -/
  | ended (shop shop' : Ledger V τ ε) (hsubmissions : shop.channel.submissions = [])
    (hsending : shop.channel.sending = false) : Leaves .next shop shop'
  /-- Nobody collects the reply. -/
  | deserted (ticket : Ticket) (reply : Reply V) (shop shop' : Ledger V τ ε)
    (hcollecting : shop.channel.collecting = false) : Leaves (.replying ticket reply) shop shop'
  /-- The flow behind broke down at an attempt. -/
  | brokeDown (attempt : Attempt V) (stage : Stage V) (shop shop' : Ledger V τ ε)
    (calls : List (FlowCall V ε)) (call : FlowCall V ε)
    (hrecord : shop'.behind.2 = shop.behind.2 ++ calls ++ [call]) (hcall : call.breaks = true) :
    Leaves (.trying attempt stage) shop shop'

/-- The worker leaves off for one of the three reasons, and turns to closing the flow behind. -/
theorem closing_iff_leaves (cue : Cue) {phase : Phase V} (hphase : phase.isOver = false)
    (shop : Ledger V τ ε) :
    let state := Shop.next (tend inner.recorded describe policy) (.inr cue) (phase, shop)
    state.1 = .closing ↔ Leaves phase shop state.2 := by
  intro state
  have hproceeds : Proceeds inner policy cue.instant (phase, shop) state :=
    proceeds inner describe policy cue shop phase
  constructor
  · intro hclosing
    generalize state = state' at *
    cases hproceeds with
    | serves _ _ _ _ _ _ hphase' => subst hclosing; cases hphase'
    | crashes => cases hclosing
    | ends _ hsubmissions hsending => exact .ended _ _ hsubmissions hsending
    | returns _ _ _ hcollecting => exact .deserted _ _ _ _ hcollecting
    | breaks _ _ _ _ calls call hrecord _ hcall => exact .brokeDown _ _ _ _ calls call hrecord hcall
    | waits | stops | rests | remains => cases hphase
  · intro hleaves
    cases hleaves with
    | ended _ _ hsubmissions hsending =>
      simp [state, Shop.next, Shop.outcome, tend, advance,
        desk_next_nil cue.instant cue.rested hsubmissions, hsending]
    | deserted _ _ _ _ hcollecting =>
      simp [state, Shop.next, Shop.outcome, tend, advance, desk_reply_left hcollecting]
    | brokeDown attempt stage _ _ calls call hrecord hcall =>
      -- At a breakdown the worker cannot have gone on.
      have hgone : ∀ {made : List (FlowCall V ε)}, state.2.behind.2 = shop.behind.2 ++ made →
          ¬ ∀ call ∈ made, call.GoesOn := by
        intro made hmade hgoesOn
        rw [hrecord, List.append_assoc, List.append_cancel_left_eq] at hmade
        have hbroken := (hgoesOn call (by simp [← hmade])).1
        rw [hcall] at hbroken
        cases hbroken
      generalize state = state' at *
      cases hproceeds with
      | serves _ _ _ _ made _ _ hmade hgoesOn => exact absurd hgoesOn (hgone hmade)
      | crashes _ _ _ made _ hmade hgoesOn => exact absurd hgoesOn (hgone hmade)
      | breaks => rfl

/-! ### Until the flow behind is closed -/

theorem stopped_after {shop : Ledger V τ ε} (acts : List (Client V ⊕ Cue)) :
    (Shop.after (tend inner.recorded describe policy) acts (.stopped, shop)).1 = .stopped := by
  refine Shop.after_induction (P := fun state : Phase V × Ledger V τ ε ↦ state.1 = .stopped) rfl ?_
    acts
  rintro (step | cue) ⟨phase, shop⟩ hphase
  · exact hphase
  · obtain rfl : phase = .stopped := hphase
    rfl

/-- A worker that closes the flow behind has stopped after so many phases, whatever the client
does meanwhile. -/
theorem exists_stopped {s : τ} (hclose : Responded inner.pollClose (fun _ _ ↦ True) s) :
    ∃ phases, ∀ (shop : Ledger V τ ε) (acts : List (Client V ⊕ Cue)), shop.behind.1 = s →
      phases ≤ acts.countP Sum.isRight →
        (Shop.after (tend inner.recorded describe policy) acts (.closing, shop)).1 = .stopped := by
  have hvisits : ∀ {phases : ℕ} {s : τ},
      (∀ (shop : Ledger V τ ε) (cue : Cue) (acts : List (Client V ⊕ Cue)), shop.behind.1 = s →
        phases ≤ acts.countP Sum.isRight → (Shop.after (tend inner.recorded describe policy) acts
          (Shop.next (tend inner.recorded describe policy) (.inr cue) (.closing, shop))).1 =
            .stopped) →
      ∀ (shop : Ledger V τ ε) (acts : List (Client V ⊕ Cue)), shop.behind.1 = s →
        phases + 1 ≤ acts.countP Sum.isRight → (Shop.after (tend inner.recorded describe policy)
          acts (.closing, shop)).1 = .stopped := by
    intro phases s hphase shop acts
    induction acts generalizing shop with
    | nil => exact fun _ hphases ↦ absurd hphases (by simp)
    | cons act acts ih =>
      intro hbehind hphases
      cases act with
      | inl step =>
        refine ih (shop.visit step) (by rw [visit_behind, hbehind]) ?_
        simpa using hphases
      | inr cue =>
        rw [List.countP_cons_of_pos rfl] at hphases
        exact hphase shop cue acts hbehind (Nat.le_of_succ_le_succ hphases)
  induction hclose with
  | @now s t outcome hpoll _ =>
    refine ⟨0 + 1, hvisits fun shop cue acts hbehind _ ↦ ?_⟩
    rw [next_closing, hbehind, hpoll]
    exact stopped_after inner describe policy acts
  | @later s t hpoll _ ih =>
    obtain ⟨phases, hphases⟩ := ih
    refine ⟨phases + 1, hvisits fun shop cue acts hbehind hmore ↦ ?_⟩
    rw [next_closing, hbehind, hpoll]
    exact hphases _ acts rfl hmore

end After

end Retry

end Errand
