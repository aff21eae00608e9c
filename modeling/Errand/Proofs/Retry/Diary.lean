import Errand.Proofs.EventLoop.Schedule
import Mathlib.Logic.Relation
import Mathlib.Order.Lattice

/-!
The diary of a retrying worker: what it does about its submissions, each entry with its instant. The
worker has any desk and any inner flow, and from one phase to the next anything may happen to their
state, and the strategy may change its mind (`Moment`). The entries about submissions, attempts and
replies are made by the desk and the flow themselves (`Desk.dated`, `Flow.dated`); that the strategy
is asked, and that a reply is to be passed on, is entered at the end of the phase (`turn`).

With the diary a worker does the same as without (`turn_erased`). What a phase can write is said
once, by `turned`.
-/

set_option autoImplicit false

namespace Errand

variable {V : ValueTypes} {σ ε : Type}

namespace Retry

/-- Something that a worker does about a submission. -/
inductive Note (V : ValueTypes) where
  | began (submission : Submission V)
  | attempted (submission : Submission V)
  | answered (reply : Reply V)
  /-- The strategy is asked about a failure. -/
  | asked (retries : ℕ) (cause : Failure) (advice : Strategy)
  /-- A reply is to be passed on. -/
  | settled (reply : Reply V)
  | passedOn (reply : Reply V)
  /-- Nobody collects the reply. -/
  | returned (reply : Reply V)
  /-- The inner flow breaks down. -/
  | brokeDown

structure Entry (V : ValueTypes) where
  instant : ℕ
  note : Note V

abbrev Diary (V : ValueTypes) := List (Entry V)

end Retry

open Retry

/-- The desk, with a diary of the submissions taken and the replies sent. -/
def Desk.dated (desk : Desk V σ) : Desk V (σ × Diary V) where
  next := fun (s, diary) ↦
    match desk.next s with
    | (.ready (some submission), s) =>
      (.ready (some submission), s, diary ++ [⟨desk.now s, .began submission⟩])
    | (outcome, s) => (outcome, s, diary)
  reply reply := fun (s, diary) ↦
    match desk.reply reply s with
    | (.ready true, s) => (.ready true, s, diary ++ [⟨desk.now s, .passedOn reply⟩])
    | (.ready false, s) => (.ready false, s, diary ++ [⟨desk.now s, .returned reply⟩])
    | (.pending, s) => (.pending, s, diary)
  now := fun (s, _) ↦ desk.now s
  sleepUntil instant := fun (s, diary) ↦
    let (outcome, s) := desk.sleepUntil instant s
    (outcome, s, diary)
  log event := fun (s, diary) ↦ (desk.log event s, diary)

/-- The flow, with a diary of the attempts and the replies, dated by the clock. -/
def Flow.dated (inner : Flow V σ ε) (now : σ → ℕ) : Flow V (σ × Diary V) ε where
  pollReady := fun (s, diary) ↦
    match inner.pollReady s with
    | (.ready (.error e), s) => (.ready (.error e), s, diary ++ [⟨now s, .brokeDown⟩])
    | (outcome, s) => (outcome, s, diary)
  startDispatch submission := fun (s, diary) ↦
    let diary := diary ++ [⟨now s, .attempted submission⟩]
    match inner.startDispatch submission s with
    | (.error e, s) => (.error e, s, diary ++ [⟨now s, .brokeDown⟩])
    | (.ok (), s) => (.ok (), s, diary)
  pollFlush := fun (s, diary) ↦
    match inner.pollFlush s with
    | (.ready (.error e), s) => (.ready (.error e), s, diary ++ [⟨now s, .brokeDown⟩])
    | (outcome, s) => (outcome, s, diary)
  pollClose := fun (s, diary) ↦
    let (outcome, s) := inner.pollClose s
    (outcome, s, diary)
  pollReply := fun (s, diary) ↦
    match inner.pollReply s with
    | (.pending, s) => (.pending, s, diary)
    | (.ready (.error e), s) => (.ready (.error e), s, diary ++ [⟨now s, .brokeDown⟩])
    | (.ready (.ok reply), s) => (.ready (.ok reply), s, diary ++ [⟨now s, .answered reply⟩])

namespace Retry

/-- The clock is never turned back, an entry in the log takes no time, and nobody wakes early. -/
structure Punctual (desk : Desk V σ) (inner : Flow V σ ε) : Prop where
  next (s : σ) : desk.now s ≤ desk.now (desk.next s).2
  reply (reply : Reply V) (s : σ) : desk.now s ≤ desk.now (desk.reply reply s).2
  sleepUntil (instant : ℕ) (s : σ) : desk.now s ≤ desk.now (desk.sleepUntil instant s).2
  wakes {instant : ℕ} {s s' : σ} (hready : desk.sleepUntil instant s = (.ready (), s')) :
    instant ≤ desk.now s'
  log (event : Event) (s : σ) : desk.now (desk.log event s) = desk.now s
  pollReady (s : σ) : desk.now s ≤ desk.now (inner.pollReady s).2
  startDispatch (submission : Submission V) (s : σ) :
    desk.now s ≤ desk.now (inner.startDispatch submission s).2
  pollFlush (s : σ) : desk.now s ≤ desk.now (inner.pollFlush s).2
  pollClose (s : σ) : desk.now s ≤ desk.now (inner.pollClose s).2
  pollReply (s : σ) : desk.now s ≤ desk.now (inner.pollReply s).2

/-- What a phase asks the strategy, if it does: how often the submission has been retried, and the
failure of the attempt. -/
def question? (inner : Flow V σ ε) (phase : Phase V) (s : σ) : Option (ℕ × Failure) :=
  match phase with
  | .trying attempt stage =>
    match (stage.poll inner s).1 with
    | .replied ⟨_, .failure cause⟩ => some (attempt.retries, cause)
    | _ => none
  | _ => none

/-- The reply that a phase decides to pass on. -/
def verdict? : Phase V → Phase V → Option (Reply V)
  | .trying _ _, .replying _ reply => some reply
  | _, _ => none

/-- What comes about before a phase, and what the strategy says in it. -/
structure Moment (desk : Desk V σ) where
  meanwhile : σ → σ
  later (s : σ) : desk.now s ≤ desk.now (meanwhile s)
  strategy : ℕ → Failure → Strategy

structure Stand (V : ValueTypes) (σ : Type) where
  phase : Phase V
  state : σ
  diary : Diary V

variable (desk : Desk V σ) (inner : Flow V σ ε) (describe : ε → String)
  (timeout : Option Duration)

def Moment.policy {desk : Desk V σ} (moment : Moment desk) : Policy where
  recover occasion := moment.strategy occasion.retries
  timeout := timeout

/-- Goes through one phase and writes the diary. -/
def turn (moment : Moment desk) (stand : Stand V σ) : Move × Stand V σ :=
  let before := (moment.meanwhile stand.state, stand.diary)
  let ((move, phase), s, diary) :=
    advance desk.dated (inner.dated desk.now) describe (moment.policy timeout) stand.phase before
  let asked := (question? inner stand.phase before.1).toList.map fun (retries, cause) ↦
    ⟨desk.now s, .asked retries cause (moment.strategy retries cause)⟩
  let settled := (verdict? stand.phase phase).toList.map fun reply ↦ ⟨desk.now s, .settled reply⟩
  (move, ⟨phase, s, diary ++ asked ++ settled⟩)

/-- How things stand after so many phases. -/
def after (moments : ℕ → Moment desk) (s : σ) : ℕ → Stand V σ
  | 0 => ⟨.next, s, []⟩
  | n + 1 => (turn desk inner describe timeout (moments n) (after moments s n)).2

/-! ### The diary changes nothing -/

section Erased

variable {desk inner describe timeout}

variable (inner) in
theorem poll_dated (now : σ → ℕ) (stage : Stage V) (s : σ) (diary : Diary V) :
    ((stage.poll (inner.dated now) (s, diary)).1, (stage.poll (inner.dated now) (s, diary)).2.1) =
      stage.poll inner s := by
  have hawait (s : σ) (diary : Diary V) :
      ((Stage.pollAwait (inner.dated now) (s, diary)).1,
        (Stage.pollAwait (inner.dated now) (s, diary)).2.1) = Stage.pollAwait inner s := by
    rcases hreply : inner.pollReply s with ⟨_ | _ | _, s'⟩ <;>
      simp [Stage.pollAwait, Flow.dated, hreply]
  have hflush (s : σ) (diary : Diary V) :
      ((Stage.pollFlush (inner.dated now) (s, diary)).1,
        (Stage.pollFlush (inner.dated now) (s, diary)).2.1) = Stage.pollFlush inner s := by
    rcases hflush : inner.pollFlush s with ⟨_ | _ | _, s'⟩
    · simp [Stage.pollFlush, Flow.dated, hflush]
    · simp [Stage.pollFlush, Flow.dated, hflush]
    · simpa [Stage.pollFlush, Flow.dated, hflush] using hawait s' diary
  cases stage with
  | dispatch submission =>
    rcases hready : inner.pollReady s with ⟨_ | _ | _, s'⟩
    · simp [Stage.poll, Stage.pollDispatch, Flow.dated, hready]
    · simp [Stage.poll, Stage.pollDispatch, Flow.dated, hready]
    · rcases hstart : inner.startDispatch submission s' with ⟨_ | _, s''⟩
      · simp [Stage.poll, Stage.pollDispatch, Flow.dated, hready, hstart]
      · simpa [Stage.poll, Stage.pollDispatch, Flow.dated, hready, hstart] using hflush s'' _
  | flush => exact hflush s diary
  | await => exact hawait s diary

/-- A worker does the same with its diary and without. -/
theorem turn_erased (moment : Moment desk) (stand : Stand V σ) :
    let outcome := turn desk inner describe timeout moment stand
    ((outcome.1, outcome.2.phase), outcome.2.state) = advance desk inner describe
      (moment.policy timeout) stand.phase (moment.meanwhile stand.state) := by
  intro outcome
  obtain ⟨phase, s, diary⟩ := stand
  cases phase with
  | next =>
    rcases hnext : desk.next (moment.meanwhile s) with ⟨_ | _ | _, s'⟩ <;>
      simp [outcome, turn, advance, Desk.dated, hnext]
  | trying attempt stage =>
    have hpoll := poll_dated inner desk.now stage (moment.meanwhile s) diary
    rcases hdated : stage.poll (inner.dated desk.now) (moment.meanwhile s, diary) with
      ⟨_ | _ | _ | ⟨ticket, _ | _ | cause⟩, s', diary'⟩ <;> rw [hdated] at hpoll
    case replied.failure =>
      rcases hadvice : moment.strategy attempt.retries cause with delay | _
      · simp only [outcome, turn, advance, hdated, ← hpoll, reconsider, Moment.policy, hadvice,
          Desk.dated]
        split
        · rfl
        · split <;> rfl
      · simp [outcome, turn, advance, hdated, ← hpoll, reconsider, Moment.policy, hadvice]
    all_goals simp [outcome, turn, advance, hdated, ← hpoll, abandon, Desk.dated]
  | sleeping attempt wakeUp =>
    rcases hsleep : desk.sleepUntil wakeUp (moment.meanwhile s) with ⟨_ | _, s'⟩ <;>
      simp [outcome, turn, advance, Desk.dated, hsleep]
  | replying ticket reply =>
    rcases hreply : desk.reply reply (moment.meanwhile s) with ⟨_ | _ | _, s'⟩ <;>
      simp [outcome, turn, advance, Desk.dated, hreply]
  | closing =>
    rcases hclose : inner.pollClose (moment.meanwhile s) with ⟨_ | _ | _, s'⟩ <;>
      simp [outcome, turn, advance, Desk.dated, Flow.dated, hclose]
  | stopped => rfl
  | crashed => rfl

theorem question?_dated (now : σ → ℕ) (phase : Phase V) (s : σ) (diary : Diary V) :
    question? (inner.dated now) phase (s, diary) = question? inner phase s := by
  cases phase with
  | trying attempt stage =>
    simp only [question?, ← poll_dated inner now stage s diary]
  | next | sleeping _ _ | replying _ _ | closing | stopped | crashed => rfl

end Erased

/-! ### What a phase can do -/

/-- The phase of a worker, the instant and the diary. -/
abbrev View (V : ValueTypes) := Phase V × ℕ × Diary V

def Stand.view (desk : Desk V σ) (stand : Stand V σ) : View V :=
  (stand.phase, desk.now stand.state, stand.diary)

/-- What is entered when the strategy is asked about a reply, if that is a failure. -/
def asking (instant retries : ℕ) (reply : Reply V) (advice : Strategy) : Diary V :=
  match reply.answer with
  | .failure cause => [⟨instant, .asked retries cause advice⟩]
  | .success _ | .filtered => []

/-- The end of the wait after a failed attempt, if the strategy says that it be made again. -/
def wakeUp? (instant : ℕ) (reply : Reply V) (advice : Strategy) : Option ℕ :=
  match reply.answer, advice with
  | .failure cause, .retryAfter delay => some (instant + (waitFor cause delay).nanos)
  | _, _ => none

/-- What a phase amounts to. -/
inductive Turned (timeout : Option Duration) : View V → View V → Prop where
  | passes (phase : Phase V) (diary : Diary V) {now later : ℕ} (hlater : now ≤ later) :
    Turned timeout (phase, now, diary) (phase, later, diary)
  | begins (submission : Submission V) (diary : Diary V) (now : ℕ) :
    Turned timeout (.next, now, diary)
      (.trying ⟨submission, 0, timeout.map (now + ·.nanos)⟩ (.dispatch submission), now,
        diary ++ [⟨now, .began submission⟩])
  /-- The time limit is beyond the clock. -/
  | overruns (submission : Submission V) (diary : Diary V) (now : ℕ) {limit : Duration}
    (hlimit : timeout = some limit) (hbeyond : clockLimit ≤ now + limit.nanos) :
    Turned timeout (.next, now, diary) (.crashed, now, diary ++ [⟨now, .began submission⟩])
  | ends (diary : Diary V) (now : ℕ) : Turned timeout (.next, now, diary) (.closing, now, diary)
  | attempts (attempt : Attempt V) (submission : Submission V) (diary : Diary V) (now : ℕ) :
    Turned timeout (.trying attempt (.dispatch submission), now, diary)
      (.trying attempt .flush, now, diary ++ [⟨now, .attempted submission⟩])
  | flushes (attempt : Attempt V) (diary : Diary V) (now : ℕ) :
    Turned timeout (.trying attempt .flush, now, diary) (.trying attempt .await, now, diary)
  | breaksDown (attempt : Attempt V) (stage : Stage V) (diary : Diary V) (now : ℕ) :
    Turned timeout (.trying attempt stage, now, diary)
      (.closing, now, diary ++ [⟨now, .brokeDown⟩])
  | settles (attempt : Attempt V) (reply : Reply V) (advice : Strategy) (diary : Diary V) (now : ℕ)
    (hpasses : ∀ wakeUp, wakeUp? now reply advice = some wakeUp →
      isLate attempt.deadline wakeUp = true) :
    Turned timeout (.trying attempt .await, now, diary)
      (.replying attempt.submission.ticket reply, now, diary ++ (⟨now, .answered reply⟩ ::
        asking now attempt.retries reply advice ++ [⟨now, .settled reply⟩]))
  | retries (attempt : Attempt V) (reply : Reply V) (advice : Strategy) (diary : Diary V)
    (now : ℕ) {wakeUp : ℕ} (hwakeUp : wakeUp? now reply advice = some wakeUp)
    (hintime : isLate attempt.deadline wakeUp = false) :
    Turned timeout (.trying attempt .await, now, diary)
      (.sleeping { attempt with retries := attempt.retries + 1 } wakeUp, now,
        diary ++ (⟨now, .answered reply⟩ :: asking now attempt.retries reply advice))
  /-- The end of the wait is beyond the clock. -/
  | overstays (attempt : Attempt V) (reply : Reply V) (advice : Strategy) (diary : Diary V)
    (now : ℕ) {wakeUp : ℕ} (hwakeUp : wakeUp? now reply advice = some wakeUp)
    (hbeyond : clockLimit ≤ wakeUp) :
    Turned timeout (.trying attempt .await, now, diary) (.crashed, now,
      diary ++ (⟨now, .answered reply⟩ :: asking now attempt.retries reply advice))
  | wakes (attempt : Attempt V) (diary : Diary V) {wakeUp now : ℕ} (hwakeUp : wakeUp ≤ now) :
    Turned timeout (.sleeping attempt wakeUp, now, diary)
      (.trying attempt (.dispatch attempt.submission), now, diary)
  | sends (ticket : Ticket) (reply : Reply V) (diary : Diary V) (now : ℕ) :
    Turned timeout (.replying ticket reply, now, diary)
      (.next, now, diary ++ [⟨now, .passedOn reply⟩])
  | returns (ticket : Ticket) (reply : Reply V) (diary : Diary V) (now : ℕ) :
    Turned timeout (.replying ticket reply, now, diary)
      (.closing, now, diary ++ [⟨now, .returned reply⟩])
  | stops (diary : Diary V) (now : ℕ) :
    Turned timeout (.closing, now, diary) (.stopped, now, diary)

variable {desk inner} (moment : Moment desk) (attempt : Attempt V)

/-- What becomes of an exchange. -/
def conclude : Exchange V ε × σ × Diary V → Move × Stand V σ
  | (.waiting stage, s, diary) => (.waiting, ⟨.trying attempt stage, s, diary⟩)
  | (.refused e, s, diary) =>
    let ((move, phase), s, diary) := abandon desk.dated attempt
      ("inner flow refused a submission: " ++ describe e) (s, diary)
    (move, ⟨phase, s, diary⟩)
  | (.lost e, s, diary) =>
    let ((move, phase), s, diary) := abandon desk.dated attempt
      ("inner flow failed to reply: " ++ describe e) (s, diary)
    (move, ⟨phase, s, diary⟩)
  | (.replied reply, s, diary) =>
    match reply.answer with
    | .failure cause =>
      let ((move, phase), s, diary) :=
        reconsider desk.dated (moment.policy timeout) attempt cause reply (s, diary)
      let settled := (verdict? (.trying attempt .await) phase).toList.map
        fun reply ↦ ⟨desk.now s, .settled reply⟩
      (move, ⟨phase, s, diary
        ++ [⟨desk.now s, .asked attempt.retries cause (moment.strategy attempt.retries cause)⟩]
        ++ settled⟩)
    | .success _ | .filtered =>
      (.again, ⟨.replying attempt.submission.ticket reply, s,
        diary ++ [⟨desk.now s, .settled reply⟩]⟩)

theorem turn_trying (stage : Stage V) (s : σ) (diary : Diary V) :
    turn desk inner describe timeout moment ⟨.trying attempt stage, s, diary⟩ =
      conclude describe timeout moment attempt
        (stage.poll (inner.dated desk.now) (moment.meanwhile s, diary)) := by
  simp only [turn, ← question?_dated desk.now _ _ diary]
  simp only [advance, question?]
  rcases stage.poll (inner.dated desk.now) (moment.meanwhile s, diary) with
    ⟨stage' | e | e | ⟨ticket, value | _ | cause⟩, s', diary'⟩
  · simp [conclude, verdict?]
  · simp [conclude, abandon, verdict?]
  · simp [conclude, abandon, verdict?]
  · simp [conclude, verdict?]
  · simp [conclude, verdict?]
  · simp only [conclude]
    rcases reconsider desk.dated (moment.policy timeout) attempt cause ⟨ticket, .failure cause⟩
      (s', diary') with ⟨⟨move, phase⟩, s'', diary''⟩
    cases phase <;> rfl

theorem after?_eq_some {now wakeUp : ℕ} {d : Duration} (h : after? now d = some wakeUp) :
    wakeUp = now + d.nanos := by
  unfold after? at h
  split_ifs at h
  exact (Option.some.inj h).symm

theorem after?_eq_none {now : ℕ} {d : Duration} (h : after? now d = none) :
    clockLimit ≤ now + d.nanos := by
  unfold after? at h
  split_ifs at h with hlt
  exact not_lt.mp hlt

theorem turned_begin (submission : Submission V) (now : ℕ) (diary : Diary V) :
    Turned timeout (.next, now, diary)
      ((begin_ (moment.policy timeout) submission now).2, now,
        diary ++ [⟨now, .began submission⟩]) := by
  have hbegins : Turned timeout _ _ := .begins submission diary now
  cases timeout with
  | none => exact hbegins
  | some limit =>
    rcases hdeadline : after? now limit with _ | deadline
    · simpa [begin_, Moment.policy, hdeadline] using
        Turned.overruns submission diary now rfl (after?_eq_none hdeadline)
    · simpa [begin_, Moment.policy, hdeadline, ← after?_eq_some hdeadline] using hbegins

section Turned

variable (hpunctual : Punctual desk inner) (s : σ) (diary : Diary V)

include hpunctual

/-- A reply is passed on, or the submission attempted once more. -/
theorem turned_replied (reply : Reply V) :
    Turned timeout (.trying attempt .await, desk.now s, diary)
      ((conclude describe timeout moment attempt
        (.replied reply, s, diary ++ [⟨desk.now s, .answered reply⟩])).2.view desk) := by
  have hsettles (advice : Strategy) :=
    @Turned.settles V timeout attempt reply advice diary (desk.now s)
  rcases hanswer : reply.answer with value | _ | cause
  · simpa [conclude, hanswer, Stand.view, asking, wakeUp?] using hsettles .fail
  · simpa [conclude, hanswer, Stand.view, asking, wakeUp?] using hsettles .fail
  rcases hadvice : moment.strategy attempt.retries cause with delay | _
  · have hlog (s : σ) (event : Event) : desk.now (desk.log event s) = desk.now s :=
      hpunctual.log event s
    let wakeUp := desk.now s + (waitFor cause delay).nanos
    have hwaits : wakeUp? (desk.now s) reply (.retryAfter delay) = some wakeUp := by
      simp [wakeUp?, hanswer, wakeUp]
    rcases hafter : after? (desk.now s) (waitFor cause delay) with _ | instant
    · simpa [conclude, hanswer, reconsider, Moment.policy, hadvice, Desk.dated, hlog, hafter,
        Stand.view, verdict?, asking] using
          Turned.overstays attempt reply _ diary (desk.now s) hwaits (after?_eq_none hafter)
    · obtain rfl : instant = wakeUp := after?_eq_some hafter
      by_cases hlate : isLate attempt.deadline wakeUp = true
      · simpa [conclude, hanswer, reconsider, Moment.policy, hadvice, Desk.dated, hlog, hafter,
          Stand.view, verdict?, asking, hlate, hwaits] using hsettles (.retryAfter delay)
      · simpa [conclude, hanswer, reconsider, Moment.policy, hadvice, Desk.dated, hlog, hafter,
          Stand.view, verdict?, asking, hlate] using
            Turned.retries attempt reply _ diary (desk.now s) hwaits (by simpa using hlate)
  · simpa [conclude, hanswer, reconsider, Moment.policy, hadvice, Stand.view, verdict?, asking,
      wakeUp?, Desk.dated] using hsettles .fail

theorem turned_await : Relation.ReflTransGen (Turned timeout)
    (.trying attempt .await, desk.now s, diary)
    ((conclude describe timeout moment attempt
      (Stage.pollAwait (inner.dated desk.now) (s, diary))).2.view desk) := by
  have hnow := hpunctual.pollReply s
  have hpasses : ∀ s' : σ, desk.now s ≤ desk.now s' → Relation.ReflTransGen (Turned timeout)
      (.trying attempt .await, desk.now s, diary) (.trying attempt .await, desk.now s', diary) :=
    fun s' hlater ↦ .single (.passes _ _ hlater)
  rcases hreply : inner.pollReply s with ⟨_ | e | reply, s'⟩ <;> rw [hreply] at hnow
  · simpa [Stage.pollAwait, Flow.dated, hreply, conclude, Stand.view] using hpasses s' hnow
  · simpa [Stage.pollAwait, Flow.dated, hreply, conclude, abandon, Desk.dated, hpunctual.log,
      Stand.view] using (hpasses s' hnow).tail (.breaksDown attempt .await diary (desk.now s'))
  · simpa [Stage.pollAwait, Flow.dated, hreply] using (hpasses s' hnow).tail
      (turned_replied describe timeout moment attempt hpunctual s' diary reply)

theorem turned_flush : Relation.ReflTransGen (Turned timeout)
    (.trying attempt .flush, desk.now s, diary)
    ((conclude describe timeout moment attempt
      (Stage.pollFlush (inner.dated desk.now) (s, diary))).2.view desk) := by
  have hnow := hpunctual.pollFlush s
  have hpasses : ∀ s' : σ, desk.now s ≤ desk.now s' → Relation.ReflTransGen (Turned timeout)
      (.trying attempt .flush, desk.now s, diary) (.trying attempt .flush, desk.now s', diary) :=
    fun s' hlater ↦ .single (.passes _ _ hlater)
  rcases hflush : inner.pollFlush s with ⟨_ | e | _, s'⟩ <;> rw [hflush] at hnow
  · simpa [Stage.pollFlush, Flow.dated, hflush, conclude, Stand.view] using hpasses s' hnow
  · simpa [Stage.pollFlush, Flow.dated, hflush, conclude, abandon, Desk.dated, hpunctual.log,
      Stand.view] using (hpasses s' hnow).tail (.breaksDown attempt .flush diary (desk.now s'))
  · simpa [Stage.pollFlush, Flow.dated, hflush] using
      ((hpasses s' hnow).tail (.flushes attempt diary (desk.now s'))).trans
        (turned_await describe timeout moment attempt hpunctual s' diary)

theorem turned_dispatch (submission : Submission V) : Relation.ReflTransGen (Turned timeout)
    (.trying attempt (.dispatch submission), desk.now s, diary)
    ((conclude describe timeout moment attempt
      (Stage.pollDispatch (inner.dated desk.now) submission (s, diary))).2.view desk) := by
  have hready := hpunctual.pollReady s
  rcases hpoll : inner.pollReady s with ⟨_ | e | _, s'⟩ <;> rw [hpoll] at hready
  · simpa [Stage.pollDispatch, Flow.dated, hpoll, conclude, Stand.view] using
      .single (.passes _ diary hready)
  · simpa [Stage.pollDispatch, Flow.dated, hpoll, conclude, abandon, Desk.dated, hpunctual.log,
      Stand.view] using .tail (.single (.passes _ diary hready)) (.breaksDown attempt _ diary _)
  · have hattempted : Relation.ReflTransGen (Turned timeout) _ _ :=
      .tail (.single (.passes (.trying attempt (.dispatch submission)) diary hready))
        (.attempts attempt submission diary (desk.now s'))
    have hstart := hpunctual.startDispatch submission s'
    rcases hdispatch : inner.startDispatch submission s' with ⟨e | _, s''⟩ <;>
      rw [hdispatch] at hstart
    · simpa [Stage.pollDispatch, Flow.dated, hpoll, hdispatch, conclude, abandon, Desk.dated,
        hpunctual.log, Stand.view] using
          (hattempted.tail (.passes _ _ hstart)).tail (.breaksDown attempt .flush _ _)
    · simpa [Stage.pollDispatch, Flow.dated, hpoll, hdispatch] using
        (hattempted.tail (.passes _ _ hstart)).trans
          (turned_flush describe timeout moment attempt hpunctual s'' _)

/-- What a phase amounts to, on a punctual clock. -/
theorem turned (stand : Stand V σ) : Relation.ReflTransGen (Turned timeout) (stand.view desk)
    ((turn desk inner describe timeout moment stand).2.view desk) := by
  obtain ⟨phase, s, diary⟩ := stand
  refine .head (.passes phase diary (moment.later s)) ?_
  cases phase with
  | next =>
    have hnow := hpunctual.next (moment.meanwhile s)
    rcases hnext : desk.next (moment.meanwhile s) with ⟨_ | _ | submission, s'⟩ <;>
      rw [hnext] at hnow
    · simpa [turn, advance, Desk.dated, hnext, question?, verdict?, Stand.view] using
        .single (.passes .next diary hnow)
    · simpa [turn, advance, Desk.dated, hnext, question?, verdict?, Stand.view] using
        .tail (.single (.passes .next diary hnow)) (.ends diary (desk.now s'))
    · simpa [turn, advance, Desk.dated, hnext, question?, verdict?, Stand.view] using
        .tail (.single (.passes .next diary hnow))
          (turned_begin timeout moment submission (desk.now s') diary)
  | trying attempt stage =>
    rw [turn_trying]
    cases stage with
    | dispatch submission =>
      exact turned_dispatch describe timeout moment attempt hpunctual _ diary submission
    | flush => exact turned_flush describe timeout moment attempt hpunctual _ diary
    | await => exact turned_await describe timeout moment attempt hpunctual _ diary
  | sleeping attempt wakeUp =>
    have hnow := hpunctual.sleepUntil wakeUp (moment.meanwhile s)
    rcases hsleep : desk.sleepUntil wakeUp (moment.meanwhile s) with ⟨_ | _, s'⟩ <;>
      rw [hsleep] at hnow
    · simpa [turn, advance, Desk.dated, hsleep, question?, verdict?, Stand.view] using
        .single (.passes _ diary hnow)
    · simpa [turn, advance, Desk.dated, hsleep, question?, verdict?, Stand.view] using
        .tail (.single (.passes _ diary hnow)) (.wakes attempt diary (hpunctual.wakes hsleep))
  | replying ticket reply =>
    have hnow := hpunctual.reply reply (moment.meanwhile s)
    rcases hreply : desk.reply reply (moment.meanwhile s) with ⟨_ | _ | _, s'⟩ <;>
      rw [hreply] at hnow
    · simpa [turn, advance, Desk.dated, hreply, question?, verdict?, Stand.view] using
        .single (.passes _ diary hnow)
    · simpa [turn, advance, Desk.dated, hreply, question?, verdict?, hpunctual.log,
        Stand.view] using .tail (.single (.passes _ diary hnow)) (.returns ticket reply diary _)
    · simpa [turn, advance, Desk.dated, hreply, question?, verdict?, Stand.view] using
        .tail (.single (.passes _ diary hnow)) (.sends ticket reply diary _)
  | closing =>
    have hnow := hpunctual.pollClose (moment.meanwhile s)
    rcases hclose : inner.pollClose (moment.meanwhile s) with ⟨_ | e | _, s'⟩ <;>
      rw [hclose] at hnow
    · simpa [turn, advance, Flow.dated, hclose, question?, verdict?, Stand.view] using
        .single (.passes .closing diary hnow)
    · simpa [turn, advance, Desk.dated, Flow.dated, hclose, question?, verdict?, hpunctual.log,
        Stand.view] using .tail (.single (.passes .closing diary hnow)) (.stops diary _)
    · simpa [turn, advance, Flow.dated, hclose, question?, verdict?, Stand.view] using
        .tail (.single (.passes .closing diary hnow)) (.stops diary _)
  | stopped =>
    simpa [turn, advance, question?, verdict?, Stand.view] using .refl
  | crashed =>
    simpa [turn, advance, question?, verdict?, Stand.view] using .refl

end Turned

end Retry

/-! ### The clock of the event loop -/

namespace EventLoop

variable {ω : Type}

theorem le_now_of_tickOf_le {instant : ℕ} {loop : EventLoop V ω}
    (hcome : tickOf instant ≤ loop.clock) : instant ≤ loop.now := by
  unfold tickOf nanosPerTick at hcome
  unfold now nanosPerTick
  omega

theorem le_now_of_sleepUntil {who : Party} {instant : ℕ} {loop loop' : EventLoop V ω}
    (hready : loop.sleepUntil who instant = (.ready (), loop')) : instant ≤ loop'.now := by
  have hclock : loop'.clock = loop.clock := by
    have hfloor := @sleepUntil_floor V ω loop who instant
    rw [hready] at hfloor
    exact congrArg Floor.clock hfloor
  have hcome : tickOf instant ≤ loop.clock := by
    by_contra hlater
    have houtcome : (loop.sleepUntil who instant).1 = .ready () := congrArg Prod.fst hready
    rcases Nat.eq_zero_or_pos loop.allowance with hstalled | hstep
    · rw [sleepUntil, paced_stalled who _ hstalled] at houtcome
      cases houtcome
    · rw [sleepUntil, (paced_eq who (setTimer who instant) hstep).1, setTimer, if_neg hlater]
        at houtcome
      split at houtcome <;> cases houtcome
  exact le_now_of_tickOf_le (hclock ▸ hcome)

/-- Nothing that a task does turns back the clock, and its timers do not go off early. -/
theorem punctual (service : TimedService V ω) (who : Party) (index : ℕ) (dock : Dock) :
    Punctual (desk who index) (flow service who dock) := by
  have hdesk (loop : EventLoop V ω) := loop.before_desk who index
  have hflow (loop : EventLoop V ω) := loop.before_flow service who dock
  have hnow {loop loop' : EventLoop V ω} (hbefore : loop.Before loop') : loop.now ≤ loop'.now :=
    Nat.mul_le_mul_right nanosPerTick hbefore.clock
  exact {
    next := fun loop ↦ hnow ((hdesk loop).next loop (.refl loop))
    reply := fun reply loop ↦ hnow ((hdesk loop).reply reply loop (.refl loop))
    sleepUntil := fun instant loop ↦ hnow ((hdesk loop).sleepUntil instant loop (.refl loop))
    wakes := le_now_of_sleepUntil
    log := fun _ _ ↦ rfl
    pollReady := fun loop ↦ hnow ((hflow loop).ready loop (.refl loop))
    startDispatch := fun submission loop ↦
      hnow ((hflow loop).dispatch submission loop (.refl loop))
    pollFlush := fun loop ↦ hnow ((hflow loop).flush loop (.refl loop))
    pollClose := fun loop ↦ hnow ((hflow loop).close loop (.refl loop))
    pollReply := fun loop ↦ hnow ((hflow loop).reply loop (.refl loop)) }

/-- A millisecond passes before each phase of a worker, and it has a new turn. -/
def ticking (who : Party) (index : ℕ) (strategy : ℕ → Failure → Strategy) :
    Moment (desk who index : Desk V (EventLoop V ω)) where
  meanwhile loop := { loop with clock := loop.clock + 1, allowance := stepsPerTurn }
  later loop := Nat.mul_le_mul_right nanosPerTick (Nat.le_succ loop.clock)
  strategy := strategy

end EventLoop

end Errand
