import Errand.Proofs.Channel.Shop
import Errand.Proofs.Executor.Pursuit
import Errand.Values

/-!
How a retrying worker serves a channel by way of another flow, whatever that flow does, whatever its
policy says and whatever the client does meanwhile. It goes about its submissions in rounds
(`Round`): a submission is taken and attempted again and again, as often as the policy grants, and
the reply to the last attempt is sent as it came (`Accounted`).

A client that has left does not stop a round: the submission in hand, or the one taken next, goes on
being attempted, and only then does the worker see that nobody collects
(`attempts_after_leaving`, `retried_after_leaving`).
-/

set_option autoImplicit false

namespace Errand

variable {V : ValueTypes} {τ ε : Type}

/-- The flow behind a shop, as its worker uses it. -/
def Flow.behind (inner : Flow V τ ε) : Flow V (Shop V τ) ε where
  pollReady shop :=
    let (outcome, behind) := inner.pollReady shop.behind
    (outcome, { shop with behind })
  startDispatch submission shop :=
    let (outcome, behind) := inner.startDispatch submission shop.behind
    (outcome, { shop with behind }.deal (.attempted submission))
  pollFlush shop :=
    let (outcome, behind) := inner.pollFlush shop.behind
    (outcome, { shop with behind })
  pollClose shop :=
    let (outcome, behind) := inner.pollClose shop.behind
    (outcome, { shop with behind })
  pollReply shop :=
    match inner.pollReply shop.behind with
    | (.ready (.ok reply), behind) =>
      (.ready (.ok reply), { shop with behind }.deal (.answered reply))
    | (outcome, behind) => (outcome, { shop with behind })

namespace Retry

open Shop

/-- What is different about a phase from one time to the next. -/
structure Cue where
  instant : ℕ
  /-- What the worker sleeps for has come. -/
  rested : Bool

/-- A phase of the worker of a shop. -/
def tend (inner : Flow V τ ε) (describe : ε → String) (policy : Policy) (cue : Cue)
    (phase : Phase V) (shop : Shop V τ) : (Move × Phase V) × Shop V τ :=
  advance (Shop.desk cue.instant cue.rested) inner.behind describe policy phase shop

/-- Whether the worker is not going to take anything any more. -/
@[simp] def Phase.isOver : Phase V → Bool
  | closing | stopped | crashed => true
  | next | trying _ _ | sleeping _ _ | replying _ _ => false

/-- What a phase of the worker amounts to. -/
inductive Tended (policy : Policy) : Phase V × Shop V τ → Phase V × Shop V τ → Prop where
  | takes (submission : Submission V) (waiting : List (Submission V)) (deadline : Option ℕ)
    (shop : Shop V τ) (hsubmissions : shop.channel.submissions = submission :: waiting)
    (hdeadline : policy.timeout = none → deadline = none) :
    Tended policy (.next, shop) (.trying ⟨submission, 0, deadline⟩ (.dispatch submission),
      { shop with channel := { shop.channel with submissions := waiting } }.deal
        (.taken submission))
  | ends (shop : Shop V τ) : Tended policy (.next, shop) (.closing, shop)
  | attempts (attempt : Attempt V) (submission : Submission V) (behind : τ) (shop : Shop V τ) :
    Tended policy (.trying attempt (.dispatch submission), shop)
      (.trying attempt .flush, { shop with behind }.deal (.attempted submission))
  | flushes (attempt : Attempt V) (behind : τ) (shop : Shop V τ) :
    Tended policy (.trying attempt .flush, shop) (.trying attempt .await, { shop with behind })
  | abandons (attempt : Attempt V) (stage : Stage V) (behind : τ) (shop : Shop V τ) :
    Tended policy (.trying attempt stage, shop) (.closing, { shop with behind })
  | passesOn (attempt : Attempt V) (reply : Reply V) (behind : τ) (shop : Shop V τ)
    (hpasses : ∀ cause, reply.answer = .failure cause →
      policy.recover ⟨attempt.submission.ticket, attempt.retries⟩ cause = .fail ∨
        attempt.deadline ≠ none) :
    Tended policy (.trying attempt .await, shop)
      (.replying attempt.submission.ticket reply, { shop with behind }.deal (.answered reply))
  | retries (attempt : Attempt V) (reply : Reply V) (cause : Failure) (delay : Duration)
    (wakeUp : ℕ) (behind : τ) (shop : Shop V τ) (hfailure : reply.answer = .failure cause)
    (hretry : policy.recover ⟨attempt.submission.ticket, attempt.retries⟩ cause =
      .retryAfter delay) :
    Tended policy (.trying attempt .await, shop)
      (.sleeping { attempt with retries := attempt.retries + 1 } wakeUp,
        { shop with behind }.deal (.answered reply))
  | wakes (attempt : Attempt V) (wakeUp : ℕ) (shop : Shop V τ) :
    Tended policy (.sleeping attempt wakeUp, shop)
      (.trying attempt (.dispatch attempt.submission), shop)
  | sends (ticket : Ticket) (reply : Reply V) (shop : Shop V τ)
    (hcollecting : shop.channel.collecting = true)
    (hroom : shop.channel.replies.length < shop.channel.capacity) :
    Tended policy (.replying ticket reply, shop) (.next, { shop with channel := { shop.channel with
      replies := shop.channel.replies ++ [reply] } }.deal (.sent reply))
  | returns (ticket : Ticket) (reply : Reply V) (shop : Shop V τ)
    (hcollecting : shop.channel.collecting = false) :
    Tended policy (.replying ticket reply, shop) (.closing, shop.deal (.returned reply))
  /-- The flow behind goes on, or makes the worker wait. -/
  | stirs (phase : Phase V) (behind : τ) (shop : Shop V τ) :
    Tended policy (phase, shop) (phase, { shop with behind })
  | crashes (phase : Phase V) (shop : Shop V τ) :
    Tended policy (phase, shop) (.crashed, { shop with channel := shop.channel.dropWorker })
  | stops (phase : Phase V) (shop : Shop V τ) (hover : phase.isOver = true) :
    Tended policy (phase, shop) (.stopped, { shop with channel := shop.channel.dropWorker })

section Tended

variable (inner : Flow V τ ε) (describe : ε → String) (policy : Policy) (cue : Cue)
  (attempt : Attempt V) (shop : Shop V τ)

/-- What the worker makes of an exchange. -/
def resolve : Exchange V ε × Shop V τ → (Move × Phase V) × Shop V τ
  | (.waiting stage, shop) => ((.waiting, .trying attempt stage), shop)
  | (.refused e, shop) =>
    abandon (Shop.desk cue.instant cue.rested) attempt
      ("inner flow refused a submission: " ++ describe e) shop
  | (.lost e, shop) =>
    abandon (Shop.desk cue.instant cue.rested) attempt
      ("inner flow failed to reply: " ++ describe e) shop
  | (.replied reply, shop) =>
    match reply.answer with
    | .failure cause =>
      reconsider (Shop.desk cue.instant cue.rested) policy attempt cause reply shop
    | .success _ | .filtered => ((.again, .replying attempt.submission.ticket reply), shop)

theorem tend_trying (stage : Stage V) :
    tend inner describe policy cue (.trying attempt stage) shop =
      resolve describe policy cue attempt (stage.poll inner.behind shop) := by
  simp only [tend, advance]
  rcases stage.poll inner.behind shop with ⟨_ | _ | _ | reply, shop'⟩ <;> rfl

/-- A reply is passed on or the submission retried. -/
theorem tended_replied (reply : Reply V) (behind : τ) :
    Relation.ReflTransGen (Tended policy) (.trying attempt .await, shop)
      (Shop.outcome (resolve describe policy cue attempt
        (.replied reply, { shop with behind }.deal (.answered reply)))) := by
  have hpassed := @Tended.passesOn V τ policy attempt reply behind shop
  rcases hanswer : reply.answer with value | _ | cause
  · simpa [resolve, hanswer, Shop.outcome] using .single (hpassed (by simp [hanswer]))
  · simpa [resolve, hanswer, Shop.outcome] using .single (hpassed (by simp [hanswer]))
  · rcases hrecover : policy.recover ⟨attempt.submission.ticket, attempt.retries⟩ cause
      with delay | _
    · have hretried := fun wakeUp ↦
        Tended.retries attempt reply cause delay wakeUp behind shop hanswer hrecover
      rcases hwakeUp : after? cue.instant (waitFor cause delay) with _ | wakeUp
      · have hcrashed : resolve describe policy cue attempt
            (.replied reply, { shop with behind }.deal (.answered reply)) =
              ((.stopped, .crashed), { shop with behind }.deal (.answered reply)) := by
          simp [resolve, hanswer, reconsider, hrecover, hwakeUp]
        rw [hcrashed]
        exact .tail (.single (hretried 0)) (.crashes _ _)
      · by_cases hlate : isLate attempt.deadline wakeUp = true
        · have hdeadline : attempt.deadline ≠ none := by
            intro hnone
            simp [hnone, isLate] at hlate
          refine .single ?_
          simpa [resolve, hanswer, reconsider, hrecover, hwakeUp, hlate, Shop.outcome] using
            hpassed fun _ _ ↦ Or.inr hdeadline
        · refine .single ?_
          simpa [resolve, hanswer, reconsider, hrecover, hwakeUp, hlate, Shop.outcome] using
            hretried wakeUp
    · refine .single ?_
      simpa [resolve, hanswer, reconsider, hrecover, Shop.outcome] using
        hpassed (by simp [hanswer, hrecover])

theorem tended_await : Relation.ReflTransGen (Tended policy) (.trying attempt .await, shop)
    (Shop.outcome (resolve describe policy cue attempt
      (Stage.pollAwait inner.behind shop))) := by
  rcases hreply : inner.pollReply shop.behind with ⟨_ | e | reply, behind⟩
  · simpa [Stage.pollAwait, Flow.behind, hreply, resolve, Shop.outcome] using
      .single (.stirs _ behind shop)
  · simpa [Stage.pollAwait, Flow.behind, hreply, resolve, abandon, Shop.outcome] using
      .single (.abandons attempt .await behind shop)
  · simpa [Stage.pollAwait, Flow.behind, hreply] using
      tended_replied describe policy cue attempt shop reply behind

theorem tended_flush : Relation.ReflTransGen (Tended policy) (.trying attempt .flush, shop)
    (Shop.outcome (resolve describe policy cue attempt
      (Stage.pollFlush inner.behind shop))) := by
  rcases hflush : inner.pollFlush shop.behind with ⟨_ | e | _, behind⟩
  · simpa [Stage.pollFlush, Flow.behind, hflush, resolve, Shop.outcome] using
      .single (.stirs _ behind shop)
  · simpa [Stage.pollFlush, Flow.behind, hflush, resolve, abandon, Shop.outcome] using
      .single (.abandons attempt .flush behind shop)
  · refine .head (.flushes attempt behind shop) ?_
    simpa [Stage.pollFlush, Flow.behind, hflush] using
      tended_await inner describe policy cue attempt { shop with behind }

theorem tended_dispatch (submission : Submission V) :
    Relation.ReflTransGen (Tended policy) (.trying attempt (.dispatch submission), shop)
      (Shop.outcome (resolve describe policy cue attempt
        (Stage.pollDispatch inner.behind submission shop))) := by
  rcases hready : inner.pollReady shop.behind with ⟨_ | e | _, behind⟩
  · simpa [Stage.pollDispatch, Flow.behind, hready, resolve, Shop.outcome] using
      .single (.stirs _ behind shop)
  · simpa [Stage.pollDispatch, Flow.behind, hready, resolve, abandon, Shop.outcome] using
      .single (.abandons attempt (.dispatch submission) behind shop)
  · have hattempts := fun behind' ↦
      @Tended.attempts V τ policy attempt submission behind' shop
    rcases hstart : inner.startDispatch submission behind with ⟨e | _, behind'⟩
    · refine .head (hattempts behind') (.single ?_)
      simpa [Stage.pollDispatch, Flow.behind, hready, hstart, resolve, abandon, Shop.outcome] using
        .abandons attempt .flush behind' _
    · refine .head (hattempts behind') ?_
      simpa [Stage.pollDispatch, Flow.behind, hready, hstart] using
        tended_flush inner describe policy cue attempt
          ({ shop with behind := behind' }.deal (.attempted submission))

theorem tended (phase : Phase V) (shop : Shop V τ) :
    Relation.ReflTransGen (Tended policy) (phase, shop)
      (Shop.next (tend inner describe policy) (.inr cue) (phase, shop)) := by
  cases phase with
  | next =>
    rcases hsubmissions : shop.channel.submissions with _ | ⟨submission, waiting⟩
    · have htake := desk_next_nil cue.instant cue.rested hsubmissions
      rcases hsending : shop.channel.sending
      · refine .single ?_
        simpa [Shop.next, Shop.outcome, tend, advance, htake, hsending] using Tended.ends shop
      · simpa [Shop.next, Shop.outcome, tend, advance, htake, hsending] using
          Relation.ReflTransGen.refl
    · have htake := desk_next_cons cue.instant cue.rested hsubmissions
      have htaken := fun deadline ↦
        @Tended.takes V τ policy submission waiting deadline shop hsubmissions
      rcases htimeout : policy.timeout with _ | timeout
      · refine .single ?_
        simpa [Shop.next, Shop.outcome, tend, advance, htake, begin_, htimeout] using
          htaken none fun _ ↦ rfl
      · rcases hdeadline : after? cue.instant timeout with _ | deadline
        · have hcrashed : tend inner describe policy cue .next shop = ((.stopped, .crashed),
              { shop with channel := { shop.channel with submissions := waiting } }.deal
                (.taken submission)) := by
            simp [tend, advance, htake, begin_, htimeout, hdeadline]
          rw [Shop.next, hcrashed]
          exact .head (htaken none fun _ ↦ rfl) (.single (.crashes _ _))
        · refine .single ?_
          simpa [Shop.next, Shop.outcome, tend, advance, htake, begin_, htimeout, hdeadline] using
            htaken (some deadline) (by simp [htimeout])
  | trying attempt stage =>
    rw [Shop.next, tend_trying]
    cases stage with
    | dispatch submission => exact tended_dispatch inner describe policy cue attempt shop submission
    | flush => exact tended_flush inner describe policy cue attempt shop
    | await => exact tended_await inner describe policy cue attempt shop
  | sleeping attempt wakeUp =>
    rcases hrested : cue.rested
    · simpa [Shop.next, Shop.outcome, tend, advance, hrested] using Relation.ReflTransGen.refl
    · refine .single ?_
      simpa [Shop.next, Shop.outcome, tend, advance, hrested] using
        Tended.wakes attempt wakeUp shop
  | replying ticket reply =>
    rcases hcollecting : shop.channel.collecting
    · refine .single ?_
      simpa [Shop.next, Shop.outcome, tend, advance, desk_reply_left hcollecting] using
        Tended.returns ticket reply shop hcollecting
    · by_cases hroom : shop.channel.replies.length < shop.channel.capacity
      · refine .single ?_
        simpa [Shop.next, Shop.outcome, tend, advance, desk_reply_room hcollecting hroom] using
          Tended.sends ticket reply shop hcollecting hroom
      · simpa [Shop.next, Shop.outcome, tend, advance, desk_reply_full hcollecting hroom] using
          Relation.ReflTransGen.refl
  | closing =>
    rcases hclose : inner.pollClose shop.behind with ⟨_ | _ | _, behind⟩
    · simpa [Shop.next, Shop.outcome, tend, advance, Flow.behind, hclose] using
        .single (.stirs .closing behind shop)
    · refine .tail (.single (.stirs .closing behind shop)) ?_
      simpa [Shop.next, Shop.outcome, tend, advance, Flow.behind, hclose] using
        Tended.stops .closing _ rfl
    · refine .tail (.single (.stirs .closing behind shop)) ?_
      simpa [Shop.next, Shop.outcome, tend, advance, Flow.behind, hclose] using
        Tended.stops .closing _ rfl
  | stopped => exact .single (.stops .stopped shop rfl)
  | crashed => exact .single (.crashes .crashed shop)

end Tended

/-! ### Rounds -/

namespace Policy

/-- The policy says of the answer that another attempt be made. -/
def Grants (policy : Policy) (occasion : Occasion) (answer : Answer (Payload V)) : Prop :=
  ∃ cause delay, answer = .failure cause ∧ policy.recover occasion cause = .retryAfter delay

/-- Replies to attempts at a submission, after each of which the policy grants another one. -/
inductive Granted (policy : Policy) (submission : Submission V) : List (Reply V) → Prop where
  | unattempted : Granted policy submission []
  | again {replies : List (Reply V)} {reply : Reply V}
    (hgranted : Granted policy submission replies)
    (hgrants : policy.Grants ⟨submission.ticket, replies.length⟩ reply.answer) :
    Granted policy submission (replies ++ [reply])

end Policy

/-- What is done about one submission. -/
structure Round (V : ValueTypes) where
  submission : Submission V
  /-- The replies after which it is attempted again. -/
  retried : List (Reply V)
  /-- The reply to the last attempt. -/
  reply : Reply V

/-- Attempts at a submission that came to these replies. -/
def attemptsAt (submission : Submission V) (replies : List (Reply V)) : List (Deal V) :=
  replies.flatMap fun reply ↦ [.attempted submission, .answered reply]

theorem attemptsAt_taken (submission : Submission V) (replies : List (Reply V)) :
    (attemptsAt submission replies).filterMap Deal.taken? = [] := by
  simp [attemptsAt, List.filterMap_flatMap]

theorem attemptsAt_sent (submission : Submission V) (replies : List (Reply V)) :
    (attemptsAt submission replies).filterMap Deal.sent? = [] := by
  simp [attemptsAt, List.filterMap_flatMap]

namespace Round

variable (round : Round V)

/-- As many attempts as the policy grants, and a reply that it lets pass. -/
structure Obeys (policy : Policy) : Prop where
  granted : policy.Granted round.submission round.retried
  passesOn : policy.PassesOn ⟨round.submission.ticket, round.retried.length⟩ round.reply.answer

/-- What comes about in a round before the reply is sent. -/
def deals : List (Deal V) :=
  .taken round.submission :: attemptsAt round.submission (round.retried ++ [round.reply])

def whole : List (Deal V) := round.deals ++ [.sent round.reply]

end Round

/-- What has come about of a round, the worker being in such a phase. -/
inductive Standing (policy : Policy) : Phase V → List (Deal V) → Prop where
  | next : Standing policy .next []
  | dispatching (attempt : Attempt V) (replies : List (Reply V))
    (hgranted : policy.Granted attempt.submission replies)
    (hretries : replies.length = attempt.retries)
    (hdeadline : policy.timeout = none → attempt.deadline = none) :
    Standing policy (.trying attempt (.dispatch attempt.submission))
      (.taken attempt.submission :: attemptsAt attempt.submission replies)
  | aloft (attempt : Attempt V) (stage : Stage V) (replies : List (Reply V))
    (hgranted : policy.Granted attempt.submission replies)
    (hretries : replies.length = attempt.retries)
    (hdeadline : policy.timeout = none → attempt.deadline = none)
    (hstage : stage = .flush ∨ stage = .await) :
    Standing policy (.trying attempt stage) (.taken attempt.submission ::
      attemptsAt attempt.submission replies ++ [.attempted attempt.submission])
  | sleeping (attempt : Attempt V) (wakeUp : ℕ) (replies : List (Reply V))
    (hgranted : policy.Granted attempt.submission replies)
    (hretries : replies.length = attempt.retries)
    (hdeadline : policy.timeout = none → attempt.deadline = none) :
    Standing policy (.sleeping attempt wakeUp)
      (.taken attempt.submission :: attemptsAt attempt.submission replies)
  | replying (round : Round V) (hround : round.Obeys policy) :
    Standing policy (.replying round.submission.ticket round.reply) round.deals
  | returned (round : Round V) (hround : round.Obeys policy) :
    Standing policy .closing (round.deals ++ [.returned round.reply])
  /-- A round that is given up stays as it is. -/
  | parted (phase phase' : Phase V) (deals : List (Deal V))
    (hstanding : Standing policy phase deals) (hover : phase'.isOver = true) :
    Standing policy phase' deals

/-- The worker has gone about its submissions in rounds, one after the other, as its policy says. -/
def Accounted (policy : Policy) (state : Phase V × Shop V τ) : Prop :=
  ∃ (rounds : List (Round V)) (rest : List (Deal V)),
    state.2.all Deal.worked? = rounds.flatMap Round.whole ++ rest ∧
      (∀ round ∈ rounds, round.Obeys policy) ∧ Standing policy state.1 rest

theorem accounted_opened (policy : Policy) (buffer : ℕ) (behind : τ) :
    Accounted policy (.next (V := V), Shop.opened buffer behind) :=
  ⟨[], [], rfl, by simp, .next⟩

namespace Accounted

variable {policy : Policy}

theorem visited {phase : Phase V} {shop shop' : Shop V τ}
    (haccounted : Accounted policy (phase, shop)) (hvisited : shop.Visited shop') :
    Accounted policy (phase, shop') := by
  obtain ⟨rounds, rest, hworked, hrounds⟩ := haccounted
  refine ⟨rounds, rest, ?_, hrounds⟩
  cases hvisited <;> simpa using hworked

/-- Goes on with the round. -/
theorem goOn {phase phase' : Phase V} {shop shop' : Shop V τ}
    (haccounted : Accounted policy (phase, shop)) (deals : List (Deal V))
    (hworked : shop'.all Deal.worked? = shop.all Deal.worked? ++ deals)
    (hstanding : ∀ rest, Standing policy phase rest → Standing policy phase' (rest ++ deals)) :
    Accounted policy (phase', shop') := by
  obtain ⟨rounds, rest, hall, hrounds, hrest⟩ := haccounted
  exact ⟨rounds, rest ++ deals, by rw [hworked, hall, List.append_assoc], hrounds,
    hstanding rest hrest⟩

theorem tended {state state' : Phase V × Shop V τ} (haccounted : Accounted policy state)
    (htended : Tended policy state state') : Accounted policy state' := by
  have hends : ∀ {phase phase'} {shop shop' : Shop V τ}, Accounted policy (phase, shop) →
      shop'.all Deal.worked? = shop.all Deal.worked? → phase'.isOver = true →
        Accounted policy (phase', shop') := fun haccounted hworked hover ↦
    haccounted.goOn [] (by simpa using hworked) fun rest hrest ↦ by
      simpa using .parted _ _ _ hrest hover
  cases htended with
  | takes submission waiting deadline shop hsubmissions hdeadline =>
    refine haccounted.goOn [.taken submission] (by simp) fun rest hrest ↦ ?_
    cases hrest with
    | next => exact .dispatching ⟨submission, 0, deadline⟩ [] .unattempted rfl hdeadline
    | parted _ _ _ _ hover => cases hover
  | ends shop => exact hends haccounted rfl rfl
  | attempts attempt submission behind shop =>
    refine haccounted.goOn [.attempted submission] (by simp) fun rest hrest ↦ ?_
    cases hrest with
    | dispatching _ replies hgranted hretries hdeadline =>
      exact .aloft attempt .flush replies hgranted hretries hdeadline (Or.inl rfl)
    | aloft _ _ _ _ _ _ hstage => simp at hstage
    | parted _ _ _ _ hover => cases hover
  | flushes attempt behind shop =>
    refine haccounted.goOn [] (by simp) fun rest hrest ↦ ?_
    rw [List.append_nil]
    cases hrest with
    | aloft _ _ replies hgranted hretries hdeadline _ =>
      exact .aloft attempt .await replies hgranted hretries hdeadline (Or.inr rfl)
    | parted _ _ _ _ hover => cases hover
  | abandons attempt stage behind shop => exact hends haccounted rfl rfl
  | passesOn attempt reply behind shop hpasses =>
    refine haccounted.goOn [.answered reply] (by simp) fun rest hrest ↦ ?_
    cases hrest with
    | aloft _ _ replies hgranted hretries hdeadline _ =>
      have hround : Round.Obeys ⟨attempt.submission, replies, reply⟩ policy :=
        ⟨hgranted, fun cause hcause ↦ hretries ▸
          (hpasses cause hcause).imp_right fun hsome ↦ mt hdeadline hsome⟩
      simpa [Round.deals, attemptsAt] using Standing.replying _ hround
    | parted _ _ _ _ hover => cases hover
  | retries attempt reply cause delay wakeUp behind shop hfailure hretry =>
    refine haccounted.goOn [.answered reply] (by simp) fun rest hrest ↦ ?_
    cases hrest with
    | aloft _ _ replies hgranted hretries hdeadline _ =>
      have hgrants : policy.Grants ⟨attempt.submission.ticket, replies.length⟩ reply.answer :=
        ⟨cause, delay, hfailure, hretries ▸ hretry⟩
      simpa [attemptsAt] using Standing.sleeping { attempt with retries := attempt.retries + 1 }
        wakeUp (replies ++ [reply]) (hgranted.again hgrants) (by simp [hretries]) hdeadline
    | parted _ _ _ _ hover => cases hover
  | wakes attempt wakeUp shop =>
    refine haccounted.goOn [] (by simp) fun rest hrest ↦ ?_
    rw [List.append_nil]
    cases hrest with
    | sleeping _ _ replies hgranted hretries hdeadline =>
      exact .dispatching attempt replies hgranted hretries hdeadline
    | parted _ _ _ _ hover => cases hover
  | sends ticket reply shop hcollecting hroom =>
    obtain ⟨rounds, rest, hworked, hrounds, hrest⟩ := haccounted
    cases hrest with
    | replying round hround =>
      refine ⟨rounds ++ [round], [], by simp [hworked, Round.whole], ?_, .next⟩
      simpa [or_imp, forall_and] using ⟨hrounds, hround⟩
    | parted _ _ _ _ hover => cases hover
  | returns ticket reply shop hcollecting =>
    refine haccounted.goOn [.returned reply] (by simp) fun rest hrest ↦ ?_
    cases hrest with
    | replying round hround => exact .returned round hround
    | parted _ _ _ _ hover => cases hover
  | stirs phase behind shop => exact haccounted
  | crashes phase shop => exact hends haccounted rfl rfl
  | stops phase shop hover => exact hends haccounted rfl rfl

end Accounted

theorem accounted_after (inner : Flow V τ ε) (describe : ε → String) (policy : Policy) (buffer : ℕ)
    (behind : τ) (acts : List (Client V ⊕ Cue)) : Accounted policy
      (Shop.after (tend inner describe policy) acts (.next, Shop.opened buffer behind)) :=
  Shop.after_induction_of_steps (tended inner describe policy) (fun h ↦ h.visited)
    (fun h ↦ h.tended) (accounted_opened policy buffer behind) acts

/-! ### After the client has left -/

/-- What is about to be attempted was taken last. -/
theorem Accounted.taken_last {policy : Policy} {attempt : Attempt V} {submission : Submission V}
    {shop : Shop V τ}
    (haccounted : Accounted policy (.trying attempt (.dispatch submission), shop)) :
    (shop.all Deal.taken?).getLast? = some submission := by
  obtain ⟨rounds, rest, hworked, -, hrest⟩ := haccounted
  rw [shop.all_of_worked.1, hworked, List.filterMap_append]
  cases hrest with
  | dispatching _ replies _ _ _ => simp [attemptsAt_taken]
  | aloft _ _ _ _ _ _ hstage => simp at hstage
  | parted _ _ _ _ hover => cases hover

/-- How many submissions may yet be taken once nobody collects. -/
@[simp] def Phase.freedom : Phase V → ℕ
  | next => 1
  | trying _ _ | sleeping _ _ | replying _ _ | closing | stopped | crashed => 0

/-- Nobody collects, no more than so many submissions will have been taken in the end, and only the
last one has been attempted since. -/
structure Deserted (policy : Policy) (before : List (Submission V)) (most : ℕ)
    (state : Phase V × Shop V τ) : Prop where
  collecting : state.2.channel.collecting = false
  taken : (state.2.all Deal.taken?).length + state.1.freedom ≤ most
  attempted : ∃ more, state.2.all Deal.attempted? = before ++ more ∧
    (∀ submission ∈ more, (state.2.all Deal.taken?).getLast? = some submission) ∧
      (state.1.freedom = 1 → more = [])
  accounted : Accounted policy state

namespace Deserted

variable {policy : Policy} {before : List (Submission V)} {most : ℕ}

theorem visited {phase : Phase V} {shop shop' : Shop V τ}
    (hdeserted : Deserted policy before most (phase, shop)) (hvisited : shop.Visited shop') :
    Deserted policy before most (phase, shop') := by
  have hcollecting : shop'.channel.collecting = false := by
    have hleft := hdeserted.collecting
    cases hvisited <;> simp_all [Channel.closeSending, Channel.dropCollecting]
  have htaken : shop'.all Deal.taken? = shop.all Deal.taken? := by cases hvisited <;> simp
  have hattempted : shop'.all Deal.attempted? = shop.all Deal.attempted? := by
    cases hvisited <;> simp
  exact {
    collecting := hcollecting
    taken := by simpa only [htaken] using hdeserted.taken
    attempted := by simpa only [htaken, hattempted] using hdeserted.attempted
    accounted := hdeserted.accounted.visited hvisited }

/-- A step that neither takes nor attempts anything. -/
theorem goOn {phase phase' : Phase V} {shop shop' : Shop V τ}
    (hdeserted : Deserted policy before most (phase, shop))
    (hcollecting : shop'.channel.collecting = shop.channel.collecting)
    (htaken : shop'.all Deal.taken? = shop.all Deal.taken?)
    (hattempted : shop'.all Deal.attempted? = shop.all Deal.attempted?)
    (hfreedom : phase'.freedom = 0 ∨ phase' = phase)
    (haccounted : Accounted policy (phase', shop')) :
    Deserted policy before most (phase', shop') := by
  obtain ⟨more, hmore, hlast, hnone⟩ := hdeserted.attempted
  have hmost := hdeserted.taken
  refine ⟨hcollecting.trans hdeserted.collecting, ?_, ⟨more, hattempted.trans hmore, ?_, ?_⟩,
    haccounted⟩
  · rcases hfreedom with hfreedom | rfl
    · rw [htaken, hfreedom]
      exact Nat.le_of_add_right_le hmost
    · rwa [htaken]
  · simpa only [htaken] using hlast
  · rcases hfreedom with hfreedom | rfl
    · exact fun hone ↦ absurd (hfreedom.symm.trans hone) (by decide)
    · exact hnone

theorem tended {state state' : Phase V × Shop V τ} (hdeserted : Deserted policy before most state)
    (htended : Tended policy state state') : Deserted policy before most state' := by
  have haccounted := hdeserted.accounted.tended htended
  obtain ⟨more, hmore, hlast, hnone⟩ := hdeserted.attempted
  have hmost := hdeserted.taken
  cases htended with
  | takes submission waiting deadline shop hsubmissions hdeadline =>
    obtain rfl := hnone rfl
    exact ⟨hdeserted.collecting, by simpa using hmost, ⟨[], by simpa using hmore, nofun, nofun⟩,
      haccounted⟩
  | attempts attempt submission behind shop =>
    have htaken := hdeserted.accounted.taken_last
    refine ⟨hdeserted.collecting, by simpa using hmost,
      ⟨more ++ [submission], by simp [hmore], ?_, nofun⟩, haccounted⟩
    simpa [or_imp, forall_and] using ⟨hlast, htaken⟩
  | sends ticket reply shop hcollecting hroom =>
    exact absurd hdeserted.collecting (by simp [hcollecting])
  | ends | flushes | abandons | passesOn | retries | wakes | returns | stops | crashes =>
    exact hdeserted.goOn rfl (by simp) (by simp) (Or.inl rfl) haccounted
  | stirs phase behind shop => exact hdeserted.goOn rfl rfl rfl (Or.inr rfl) haccounted

end Deserted

/-- Whatever the flow behind does: once nobody collects, attempts are made only at the submission in
hand, or, if there is none, at the one taken next, and nothing is taken after that. As ever, the
first attempt at a submission follows upon its being taken, and every other upon a failure of which
the policy says that it be retried. -/
theorem attempts_after_leaving (inner : Flow V τ ε) (describe : ε → String) (policy : Policy)
    (buffer : ℕ) (behind : τ) (acts later : List (Client V ⊕ Cue)) :
    let start : Phase V × Shop V τ := (.next, Shop.opened buffer behind)
    let state := Shop.after (tend inner describe policy) acts start
    let state' := Shop.after (tend inner describe policy) (acts ++ later) start
    state.2.channel.collecting = false →
      (∃ more, state'.2.all Deal.attempted? = state.2.all Deal.attempted? ++ more ∧
          ∀ submission ∈ more, (state'.2.all Deal.taken?).getLast? = some submission) ∧
        (state'.2.all Deal.taken?).length ≤
          (state.2.all Deal.taken?).length + state.1.freedom ∧
        Accounted policy state' := by
  intro start state state' hleft
  have haccounted := accounted_after inner describe policy buffer behind acts
  have hdeserted : Deserted policy (state.2.all Deal.attempted?)
      ((state.2.all Deal.taken?).length + state.1.freedom) state' := by
    rw [show state' = Shop.after (tend inner describe policy) later state from
      Shop.after_append _ _]
    exact Shop.after_induction_of_steps (tended inner describe policy) (fun h ↦ h.visited)
      (fun h ↦ h.tended) ⟨hleft, le_rfl, ⟨[], by simp, nofun, fun _ ↦ rfl⟩, haccounted⟩ later
  obtain ⟨more, hmore, hlast, -⟩ := hdeserted.attempted
  exact ⟨⟨more, hmore, hlast⟩, Nat.le_of_add_right_le hdeserted.taken, hdeserted.accounted⟩

/-- Takes every submission, and gives the replies of a list. -/
def replaying (V : ValueTypes) : Flow V (List (Reply V)) String where
  pollReady replies := (.ready (.ok ()), replies)
  startDispatch _ replies := (.ok (), replies)
  pollFlush replies := (.ready (.ok ()), replies)
  pollClose replies := (.ready (.ok ()), replies)
  pollReply
    | [] => (.pending, [])
    | reply :: replies => (.ready (.ok reply), replies)

/-- A second submission that waits when the client leaves is not attempted any more. -/
theorem attempts_after_leaving_of_two :
    let request : Request (Payload values) :=
      { route := ⟨.get, "/"⟩, decode := fun _ ↦ .ok none, label := "Get" }
    let limited : Reply values := ⟨⟨0⟩, .failure (.rateLimited false none)⟩
    let policy := Policy.scheduled (· matches .rateLimited _ _) [.saturated nanosPerSecond]
    let dispatch n : Client values ⊕ Cue := .inl (.dispatch ⟨⟨n⟩, request⟩)
    let work : Client values ⊕ Cue := .inr ⟨0, true⟩
    let acts := [dispatch 0, dispatch 1, work, work, .inl .leave]
    let start : Phase values × Shop values (List (Reply values)) :=
      (.next, Shop.opened 1 [limited, limited, limited])
    let state := Shop.after (tend (replaying values) id policy) acts start
    let state' :=
      Shop.after (tend (replaying values) id policy) (acts ++ [work, work, work, work]) start
    state.2.channel.collecting = false ∧
      (∃ more, state'.2.all Deal.attempted? = state.2.all Deal.attempted? ++ more ∧
        ∀ submission ∈ more, (state'.2.all Deal.taken?).getLast? = some submission) ∧
      (state'.2.all Deal.taken?).map Submission.ticket = [⟨0⟩] := by
  intro request limited policy dispatch work acts start state state'
  have hleft : state.2.channel.collecting = false := by decide +kernel
  have htaken : (state'.2.all Deal.taken?).map Submission.ticket = [⟨0⟩] := by decide +kernel
  have hbound := attempts_after_leaving (replaying values) id policy 1
    [limited, limited, limited] acts [work, work, work, work]
  exact ⟨hleft, (hbound (by decide +kernel)).1, htaken⟩

/-- A submission is attempted again after the client has closed its half and left, because the
worker was waiting between two attempts. -/
theorem retried_after_leaving :
    let request : Request (Payload values) :=
      { route := ⟨.get, "/"⟩, decode := fun _ ↦ .ok none, label := "Get" }
    let limited : Reply values := ⟨⟨0⟩, .failure (.rateLimited false none)⟩
    let policy := Policy.scheduled (· matches .rateLimited _ _) [.saturated nanosPerSecond]
    let work : Client values ⊕ Cue := .inr ⟨0, true⟩
    let acts := [.inl (.dispatch ⟨⟨0⟩, request⟩), work, work, .inl .close, .inl .leave]
    let start : Phase values × Shop values (List (Reply values)) :=
      (.next, Shop.opened 1 [limited, limited])
    let state := Shop.after (tend (replaying values) id policy) acts start
    let state' := Shop.after (tend (replaying values) id policy) (acts ++ [work, work]) start
    (state.2.channel.sending = false ∧ state.2.channel.collecting = false) ∧
      (state.2.all Deal.attempted?).map Submission.ticket = [⟨0⟩] ∧
        (state'.2.all Deal.attempted?).map Submission.ticket = [⟨0⟩, ⟨0⟩] := by
  intro request limited policy work acts start state state'
  have hleft : state.2.channel.sending = false ∧ state.2.channel.collecting = false := by
    decide +kernel
  have hbefore : (state.2.all Deal.attempted?).map Submission.ticket = [⟨0⟩] := by decide +kernel
  have hafter : (state'.2.all Deal.attempted?).map Submission.ticket = [⟨0⟩, ⟨0⟩] := by
    decide +kernel
  exact ⟨hleft, hbefore, hafter⟩

end Retry

end Errand
