import Errand.Proofs.Retry.Chapters
import Errand.Values

/-!
A retrying worker attempts a submission as often as its strategy grants. A phase asks the strategy
one question at most (`advance_congr`), and a worker that is not made to wait for ever makes the
attempt that is due (`attempts_due`).

`attempts_as_granted` describes the diary: whatever the strategy, the flow and the clock do, it
consists of chapters in which another attempt at the submission follows exactly the replies after
which it was granted, and in which the reply that is passed on is the last one.
-/

set_option autoImplicit false

namespace Errand.Retry

variable {V : ValueTypes} {σ ε : Type}

/-! ### The question to the strategy -/

/-- A phase knows no more of the strategy than the answer to its question. -/
theorem advance_congr (desk : Desk V σ) (inner : Flow V σ ε) (describe : ε → String)
    (policy policy' : Policy) (htimeout : policy.timeout = policy'.timeout) (phase : Phase V)
    (s : σ) (hsame : ∀ retries cause, question? inner phase s = some (retries, cause) →
      ∀ ticket, policy.recover ⟨ticket, retries⟩ cause = policy'.recover ⟨ticket, retries⟩ cause) :
    advance desk inner describe policy phase s = advance desk inner describe policy' phase s := by
  cases phase with
  | next => simp only [advance, begin_, htimeout]
  | trying attempt stage =>
    simp only [question?] at hsame
    simp only [advance]
    revert hsame
    rcases stage.poll inner s with ⟨_ | _ | _ | ⟨ticket, _ | _ | cause⟩, s'⟩ <;> intro hsame
    case replied.failure => simp only [reconsider, hsame attempt.retries cause rfl]
    all_goals rfl
  | sleeping attempt wakeUp => rfl
  | replying ticket reply => rfl
  | closing => rfl
  | stopped => rfl
  | crashed => rfl

/-! ### The attempt that is due -/

theorem Turned.extends {timeout : Option Duration} {view view' : View V}
    (hturned : Turned timeout view view') : view.2.2 <+: view'.2.2 := by
  cases hturned <;> first | exact List.prefix_rfl | exact List.prefix_append _ _

theorem extends_of_turned {timeout : Option Duration} {view view' : View V}
    (hturned : Relation.ReflTransGen (Turned timeout) view view') : view.2.2 <+: view'.2.2 := by
  induction hturned with
  | refl => exact List.prefix_rfl
  | tail _ hstep ih => exact ih.trans hstep.extends

section Due

variable {desk : Desk V σ} {inner : Flow V σ ε} {describe : ε → String}
  {timeout : Option Duration}

/-- The next entry is about an attempt at the submission: it is made, or the inner flow breaks
down. -/
def Attempted (submission : Submission V) (diary diary' : Diary V) : Prop :=
  ∃ instant note, diary ++ [⟨instant, note⟩] <+: diary' ∧
    (note = .attempted submission ∨ note = .brokeDown)

/-- Where the worker stands, whatever the state around it. -/
structure Stand.At (stand : Stand V σ) (phase : Phase V) (diary : Diary V) : Prop where
  phase : stand.phase = phase
  diary : stand.diary = diary

section Step

variable (moment : Moment desk) {stand : Stand V σ} {attempt : Attempt V} {diary : Diary V}

theorem turn_sleeping {wakeUp : ℕ} (hstand : stand.At (.sleeping attempt wakeUp) diary) :
    (turn desk inner describe timeout moment stand).2.At
        (.trying attempt (.dispatch attempt.submission)) diary ∨
      (turn desk inner describe timeout moment stand).1 = .waiting ∧
        (turn desk inner describe timeout moment stand).2.At (.sleeping attempt wakeUp) diary := by
  obtain ⟨phase, s, diary'⟩ := stand
  obtain ⟨rfl, rfl⟩ := hstand
  rcases hsleep : desk.sleepUntil wakeUp (moment.meanwhile s) with ⟨_ | _, s'⟩
  · right
    simp [turn, advance, Desk.dated, hsleep, question?, verdict?, Stand.At.mk]
  · left
    constructor <;> simp [turn, advance, Desk.dated, hsleep, question?, verdict?]

theorem turn_dispatch (hpunctual : Punctual desk inner) {submission : Submission V}
    (hstand : stand.At (.trying attempt (.dispatch submission)) diary) :
    Attempted submission diary (turn desk inner describe timeout moment stand).2.diary ∨
      (turn desk inner describe timeout moment stand).1 = .waiting ∧
        (turn desk inner describe timeout moment stand).2.At
          (.trying attempt (.dispatch submission)) diary := by
  obtain ⟨phase, s, diary'⟩ := stand
  obtain ⟨rfl, rfl⟩ := hstand
  rw [turn_trying, Stage.poll]
  rcases hpoll : inner.pollReady (moment.meanwhile s) with ⟨_ | e | _, s'⟩
  · right
    simp [Stage.pollDispatch, Flow.dated, hpoll, conclude, Stand.At.mk]
  · refine .inl ⟨desk.now s', .brokeDown, ?_, .inr rfl⟩
    simp [Stage.pollDispatch, Flow.dated, hpoll, conclude, abandon, Desk.dated]
  · refine .inl ⟨desk.now s', .attempted submission, ?_, .inl rfl⟩
    rcases hstart : inner.startDispatch submission s' with ⟨e | _, s''⟩
    · simp [Stage.pollDispatch, Flow.dated, hpoll, hstart, conclude, abandon, Desk.dated]
    · have hflushed := extends_of_turned (turned_flush describe timeout
        moment attempt hpunctual s'' (diary' ++ [⟨desk.now s', .attempted submission⟩]))
      simpa [Stage.pollDispatch, Flow.dated, hpoll, hstart, Stand.view] using hflushed

end Step

/-- What can only be put off by waiting comes about, if the worker is not made to wait for ever. -/
theorem leads_to {moments : ℕ → Moment desk} {s : σ} {P Q : Stand V σ → Prop}
    (hstep : ∀ moment stand, P stand →
      Q (turn desk inner describe timeout moment stand).2 ∨
        (turn desk inner describe timeout moment stand).1 = .waiting ∧
          P (turn desk inner describe timeout moment stand).2)
    {n d : ℕ} (hstand : P (after desk inner describe timeout moments s n))
    (hgoes : (turn desk inner describe timeout (moments (n + d))
      (after desk inner describe timeout moments s (n + d))).1 ≠ .waiting) :
    ∃ k, n ≤ k ∧ Q (after desk inner describe timeout moments s k) := by
  induction d generalizing n with
  | zero =>
    rcases hstep (moments n) _ hstand with hdone | ⟨hwaiting, -⟩
    · exact ⟨n + 1, Nat.le_succ n, hdone⟩
    · exact absurd hwaiting hgoes
  | succ d ih =>
    rcases hstep (moments n) _ hstand with hdone | ⟨-, hstill⟩
    · exact ⟨n + 1, Nat.le_succ n, hdone⟩
    · rw [← Nat.add_assoc, Nat.add_right_comm] at hgoes
      obtain ⟨k, hk, hdone⟩ := ih (n := n + 1) hstill hgoes
      exact ⟨k, Nat.le_of_succ_le hk, hdone⟩

/-- Whether the worker is not made to wait for ever. -/
def Unhindered (desk : Desk V σ) (inner : Flow V σ ε) (describe : ε → String)
    (timeout : Option Duration) (moments : ℕ → Moment desk) (s : σ) : Prop :=
  ∀ n, ∃ d, (turn desk inner describe timeout (moments (n + d))
    (after desk inner describe timeout moments s (n + d))).1 ≠ .waiting

/-- Nothing is left to do. -/
def Phase.hasEnded : Phase V → Bool
  | .stopped | .crashed => true
  | .next | .trying _ _ | .sleeping _ _ | .replying _ _ | .closing => false

theorem turn_ended (moment : Moment desk) {stand : Stand V σ}
    (hended : stand.phase.hasEnded = true) :
    (turn desk inner describe timeout moment stand).1 = .stopped ∧
      (turn desk inner describe timeout moment stand).2.phase.hasEnded = true := by
  obtain ⟨phase, s, diary⟩ := stand
  cases phase with
  | stopped | crashed => exact ⟨rfl, rfl⟩
  | next | trying _ _ | sleeping _ _ | replying _ _ | closing => cases hended

/-- A worker that has come to its end was not made to wait for ever. -/
theorem unhindered_of_ended {moments : ℕ → Moment desk} {s : σ} {n : ℕ}
    (hended : (after desk inner describe timeout moments s n).phase.hasEnded = true) :
    Unhindered desk inner describe timeout moments s := by
  have hstill : ∀ d,
      (after desk inner describe timeout moments s (n + d)).phase.hasEnded = true := by
    intro d
    induction d with
    | zero => exact hended
    | succ d ih => exact (turn_ended (moments (n + d)) ih).2
  intro m
  refine ⟨n, ?_⟩
  rw [Nat.add_comm, (turn_ended (moments (n + m)) (hstill m)).1]
  decide

section Put

variable (hpunctual : Punctual desk inner) {moments : ℕ → Moment desk} {s : σ}
  (hunhindered : Unhindered desk inner describe timeout moments s) {n : ℕ} {attempt : Attempt V}
  {diary : Diary V}

include hpunctual hunhindered

theorem attempted_of_dispatch {submission : Submission V}
    (hstand : (after desk inner describe timeout moments s n).At
      (.trying attempt (.dispatch submission)) diary) :
    ∃ k, n ≤ k ∧
      Attempted submission diary (after desk inner describe timeout moments s k).diary := by
  obtain ⟨d, hgoes⟩ := hunhindered n
  exact leads_to (Q := fun stand ↦ Attempted submission diary stand.diary)
    (fun moment stand hstand ↦ turn_dispatch moment hpunctual hstand) hstand hgoes

theorem attempted_of_sleeping {wakeUp : ℕ}
    (hstand : (after desk inner describe timeout moments s n).At (.sleeping attempt wakeUp) diary) :
    ∃ k, n ≤ k ∧
      Attempted attempt.submission diary (after desk inner describe timeout moments s k).diary := by
  obtain ⟨d, hgoes⟩ := hunhindered n
  obtain ⟨m, hm, hwoken⟩ := leads_to
    (Q := fun stand ↦ stand.At (.trying attempt (.dispatch attempt.submission)) diary)
    (fun moment stand hstand ↦ turn_sleeping moment hstand) hstand hgoes
  obtain ⟨k, hk, hattempted⟩ := attempted_of_dispatch hpunctual hunhindered hwoken
  exact ⟨k, hm.trans hk, hattempted⟩

/-- An attempt that is due is made, unless the inner flow breaks down. -/
theorem attempts_due {chapter : Chapter V} {now : ℕ}
    (hattends : Attends timeout now (after desk inner describe timeout moments s n).phase
      (some chapter))
    (houtcome : chapter.outcome = .due) (hrepresentable : ¬chapter.Overruns timeout) :
    ∃ k, n ≤ k ∧ Attempted chapter.submission (after desk inner describe timeout moments s n).diary
      (after desk inner describe timeout moments s k).diary := by
  have hstand : (after desk inner describe timeout moments s n).At _ _ := ⟨rfl, rfl⟩
  generalize (after desk inner describe timeout moments s n).phase = phase at hattends hstand
  cases hattends with
  | due _ attempt => exact attempted_of_dispatch hpunctual hunhindered hstand
  | underWay _ _ _ _ hunderWay => simp [houtcome] at hunderWay
  | sleeping _ attempt wakeUp _ hserves =>
    rw [← hserves.submission]
    exact attempted_of_sleeping hpunctual hunhindered hstand
  | replying _ _ _ _ hsettled => simp [houtcome] at hsettled
  | closed _ _ _ hdue => exact absurd (hdue chapter rfl houtcome) hrepresentable

end Put

end Due

/-! ### Chapters -/

/-- What the strategy is asked and what it says. -/
def Entry.advice? (entry : Entry V) : Option (ℕ × Failure × Strategy) :=
  match entry.note with
  | .asked retries cause advice => some (retries, cause, advice)
  | _ => none

/-- What the strategy says about the failure of an attempt. -/
def Trial.advice? (retries : ℕ) (trial : Trial V) : Option (ℕ × Failure × Strategy) :=
  match trial.reply.answer with
  | .failure cause => some (retries, cause, trial.advice)
  | .success _ | .filtered => none

namespace Chapter

/-- A chapter as the strategy has it. -/
structure Obeys (timeout : Option Duration) (chapter : Chapter V) : Prop where
  /-- All attempts are at the one submission. -/
  attempted : chapter.entries.filterMap Entry.attempt? =
    chapter.attempts.map fun instant ↦ (instant, chapter.submission)
  /-- The strategy is asked about every failure, and told how many came before. -/
  asked : chapter.entries.filterMap Entry.advice? =
    chapter.trials.zipIdx.filterMap fun (trial, retries) ↦ trial.advice? retries
  /-- Only what is granted is attempted again. -/
  retried {i : ℕ} {trial : Trial V} (htrial : chapter.trials[i]? = some trial)
    (hnext : i + 1 < chapter.attempts.length) : trial.Granted timeout chapter.begun
  /-- What is granted is attempted again, unless that is still to come or the inner flow does not
  take it. -/
  granted {i : ℕ} {trial : Trial V} (htrial : chapter.trials[i]? = some trial)
    (hgranted : trial.Granted timeout chapter.begun) : i + 1 < chapter.attempts.length ∨
      chapter.outcome = .due ∨ ∃ instant, chapter.outcome = .broken instant
  /-- A reply that is no failure is the last one and passed on. -/
  stops {i : ℕ} {trial : Trial V} (htrial : chapter.trials[i]? = some trial)
    (hanswer : ∀ cause, trial.reply.answer ≠ .failure cause) :
    i + 1 = chapter.trials.length ∧
      chapter.outcome.settled? = some (trial.reply, trial.answered)
  /-- So is a failure after which no other attempt is granted. -/
  settled {i : ℕ} {trial : Trial V} (htrial : chapter.trials[i]? = some trial)
    (hrefused : ¬trial.Granted timeout chapter.begun) (hrepresentable : ¬trial.Overstays) :
    i + 1 = chapter.trials.length ∧
      chapter.outcome.settled? = some (trial.reply, trial.answered)
  /-- What is passed on is the last reply, and there is one attempt more than were granted. -/
  passesOn {reply : Reply V} {instant : ℕ}
    (hsettled : chapter.outcome.settled? = some (reply, instant)) :
    (∃ last ∈ chapter.trials.getLast?, last.reply = reply) ∧
      chapter.attempts.length =
        (chapter.trials.filter (·.Granted timeout chapter.begun)).length + 1

theorem filterMap_advice_trial (submission : Submission V) (retries : ℕ) (trial : Trial V) :
    (trial.entries submission retries).filterMap Entry.advice? =
      (trial.advice? retries).toList := by
  rcases hanswer : trial.reply.answer with _ | _ | _ <;>
    simp only [Trial.entries, Trial.advice?, asking, hanswer] <;> rfl

theorem filterMap_advice (chapter : Chapter V) : chapter.entries.filterMap Entry.advice? =
    chapter.trials.zipIdx.filterMap fun (trial, retries) ↦ trial.advice? retries := by
  have houtcome : (chapter.outcome.entries chapter.submission).filterMap Entry.advice? = [] := by
    cases chapter.outcome <;> simp [Outcome.entries, Entry.advice?]
  have hbegan : Entry.advice? ⟨chapter.begun, .began chapter.submission⟩ = none := rfl
  rw [entries, List.filterMap_append, houtcome, List.append_nil, account,
    List.filterMap_cons_none hbegan, List.filterMap_flatMap, List.filterMap_eq_flatMap_toList]
  simp only [filterMap_advice_trial]

section Sound

variable {timeout : Option Duration} {chapter : Chapter V}

theorem Sound.retried (hsound : chapter.Sound timeout) {i : ℕ} {trial : Trial V}
    (htrial : chapter.trials[i]? = some trial) (hnext : i + 1 < chapter.attempts.length) :
    trial.Granted timeout chapter.begun :=
  (hsound.precedes htrial (List.getElem?_eq_getElem hnext)).granted

theorem Sound.granted (hsound : chapter.Sound timeout) {i : ℕ} {trial : Trial V}
    (htrial : chapter.trials[i]? = some trial) (hgranted : trial.Granted timeout chapter.begun) :
    i + 1 < chapter.attempts.length ∨ chapter.outcome = .due ∨
      ∃ instant, chapter.outcome = .broken instant := by
  have hi := (List.getElem?_eq_some_iff.mp htrial).1
  rcases Nat.lt_or_ge (i + 1) chapter.trials.length with hmore | hlast
  · left
    rw [attempts, List.length_append, List.length_map]
    exact Nat.lt_add_right _ hmore
  · have hlength : i + 1 = chapter.trials.length := by omega
    rcases hsettled : chapter.outcome.settled? with _ | ⟨reply, instant⟩
    · cases houtcome : chapter.outcome <;>
        simp_all [attempts, Outcome.started?, Outcome.settled?]
    · obtain ⟨last, hlast, -, -, hrefused⟩ := hsound.outcome.of_settled hsettled
      obtain rfl := Option.mem_unique hlast (Sound.getLast?_of_length htrial hlength)
      exact absurd hgranted hrefused

theorem Sound.stops (hsound : chapter.Sound timeout) {i : ℕ} {trial : Trial V}
    (htrial : chapter.trials[i]? = some trial)
    (hanswer : ∀ cause, trial.reply.answer ≠ .failure cause) :
    i + 1 = chapter.trials.length ∧
      chapter.outcome.settled? = some (trial.reply, trial.answered) := by
  have hnone : trial.wakeUp? = none := by
    rcases h : trial.reply.answer with _ | _ | cause
    · simp [Trial.wakeUp?, wakeUp?, h]
    · simp [Trial.wakeUp?, wakeUp?, h]
    · exact absurd h (hanswer cause)
  exact hsound.settled htrial (by simp [Trial.Granted, hnone]) (by simp [Trial.Overstays, hnone])

/-- All attempts but the last were granted. -/
theorem Sound.length_attempts (hsound : chapter.Sound timeout) {reply : Reply V} {instant : ℕ}
    (hsettled : chapter.outcome.settled? = some (reply, instant)) :
    chapter.attempts.length =
      (chapter.trials.filter (·.Granted timeout chapter.begun)).length + 1 := by
  have hstarted : chapter.outcome.started? = none := by
    cases houtcome : chapter.outcome <;> simp_all [Outcome.started?, Outcome.settled?]
  obtain ⟨last, hlast, -, -, hrefused⟩ := hsound.outcome.of_settled hsettled
  obtain ⟨earlier, htrials⟩ := List.getLast?_eq_some_iff.mp hlast
  have hgranted : ∀ trial ∈ earlier, trial.Granted timeout chapter.begun := by
    intro trial hmem
    obtain ⟨i, hi, rfl⟩ := List.mem_iff_getElem.mp hmem
    refine hsound.retried (i := i) ?_ ?_
    · simp [htrials, List.getElem?_append_left, hi]
    · simpa [attempts, htrials, hstarted] using hi
  have hfilter : earlier.filter (·.Granted timeout chapter.begun) = earlier :=
    List.filter_eq_self.mpr fun trial hmem ↦ by simpa using hgranted trial hmem
  simp [attempts, htrials, hstarted, List.filter_append, hfilter, hrefused]

theorem Sound.obeys (hsound : chapter.Sound timeout) : chapter.Obeys timeout where
  attempted := chapter.filterMap_attempt
  asked := chapter.filterMap_advice
  retried := hsound.retried
  granted := hsound.granted
  stops htrial hanswer := hsound.stops htrial hanswer
  settled := hsound.settled
  passesOn hsettled := by
    obtain ⟨last, hlast, hreply, -⟩ := hsound.outcome.of_settled hsettled
    exact ⟨⟨last, hlast, hreply⟩, hsound.length_attempts hsettled⟩

end Sound

end Chapter

/-- Whatever strategy, time limit and inner flow a worker has, its diary consists of one chapter for
each submission, and all chapters obey the strategy; an attempt that is due will be made. The
strategy is asked no more than the diary says. -/
theorem attempts_as_granted (desk : Desk V σ) (inner : Flow V σ ε) (describe : ε → String)
    (timeout : Option Duration) (hpunctual : Punctual desk inner) (moments : ℕ → Moment desk)
    (s : σ) :
    (∀ n, ∃ chapters : List (Chapter V),
      (after desk inner describe timeout moments s n).diary = chapters.flatMap Chapter.entries ∧
        (∀ chapter ∈ chapters.dropLast, chapter.IsPassedOn) ∧
        (∀ chapter ∈ chapters, chapter.Obeys timeout) ∧
        (Unhindered desk inner describe timeout moments s → ∀ chapter ∈ chapters.getLast?,
          chapter.outcome = .due → ¬chapter.Overruns timeout → ∃ k, n ≤ k ∧
            Attempted chapter.submission (after desk inner describe timeout moments s n).diary
              (after desk inner describe timeout moments s k).diary)) ∧
      ∀ (phase : Phase V) (state : σ) (moment moment' : Moment desk),
        (∀ retries cause, question? inner phase state = some (retries, cause) →
          moment.strategy retries cause = moment'.strategy retries cause) →
        advance desk inner describe (moment.policy timeout) phase state =
          advance desk inner describe (moment'.policy timeout) phase state := by
  refine ⟨fun n ↦ ?_, fun phase state moment moment' hsame ↦
    advance_congr desk inner describe (moment.policy timeout) (moment'.policy timeout) rfl phase
      state fun retries cause hasked _ ↦ hsame retries cause hasked⟩
  obtain ⟨earlier, current, hdiary, hsound, hpassed, hattends⟩ :=
    recorded_after desk inner describe timeout hpunctual moments s n
  refine ⟨earlier ++ current.toList, hdiary, ?_, fun chapter hmem ↦ (hsound chapter hmem).obeys,
    fun hunhindered chapter hlast hdue hrepresentable ↦ ?_⟩
  · cases current with
    | none => simpa using fun chapter hmem ↦ hpassed chapter (List.mem_of_mem_dropLast hmem)
    | some chapter => simpa using hpassed
  · cases current with
    | none =>
      obtain ⟨reply, instant, later, hpassedOn⟩ :=
        hpassed chapter (List.mem_of_getLast? (by simpa using hlast))
      simp [hdue] at hpassedOn
    | some current =>
      obtain rfl : current = chapter := by simpa using hlast
      exact attempts_due hpunctual hunhindered hattends hdue hrepresentable

/-- A submission that is dropped once, and attempted again because the strategy says so. -/
theorem attempts_as_granted_of_dropping :
    let request : Request (Payload values) :=
      { route := ⟨.get, "/"⟩, decode := fun _ ↦ .ok none, label := "Get" }
    let service : TimedService values ℕ := fun _ _ n ↦
      (if n = 0 then .error (.dropped "gone") else .ok (.ok []), n + 1)
    let desk : Desk values (EventLoop values ℕ) := EventLoop.desk (.task 0) 0
    let inner := EventLoop.flow service (.task 0) (.line 0)
    let link := (Link.dispatch ⟨⟨0⟩, request⟩ (.fresh 1)).2.2.closeSending.2.2
    let loop : EventLoop values ℕ := { EventLoop.start 0 fun _ ↦ [] with
      lines := #[.fresh], links := #[link] }
    let moments (_ : ℕ) : Moment desk := EventLoop.ticking (.task 0) 0 fun retries _ ↦
      if retries = 0 then .retryAfter (.saturated nanosPerTick) else .fail
    let stand := after desk inner FlowError.text none moments loop
    Punctual desk inner ∧ Unhindered desk inner FlowError.text none moments loop ∧
      ((stand 7).diary.filterMap Entry.attempt?).map (·.2.ticket) = [⟨0⟩, ⟨0⟩] ∧
      ∀ n, ∃ chapters : List (Chapter values),
        (stand n).diary = chapters.flatMap Chapter.entries ∧
          (∀ chapter ∈ chapters, chapter.Obeys none) ∧
          ∀ chapter ∈ chapters.getLast?, chapter.outcome = .due → ¬chapter.Overruns none →
            ∃ k, n ≤ k ∧ Attempted chapter.submission (stand n).diary (stand k).diary := by
  intro request service desk inner link loop moments stand
  have hpunctual : Punctual desk inner := EventLoop.punctual service (.task 0) 0 (.line 0)
  have hended : (stand 7).phase.hasEnded = true := by decide +kernel
  have hunhindered : Unhindered desk inner FlowError.text none moments loop :=
    unhindered_of_ended hended
  have hattempts : ((stand 7).diary.filterMap Entry.attempt?).map (·.2.ticket) = [⟨0⟩, ⟨0⟩] := by
    decide +kernel
  refine ⟨hpunctual, hunhindered, hattempts, fun n ↦ ?_⟩
  obtain ⟨chapters, hdiary, -, hobeys, hdue⟩ :=
    (attempts_as_granted desk inner FlowError.text none hpunctual moments loop).1 n
  exact ⟨chapters, hdiary, hobeys, hdue hunhindered⟩

end Errand.Retry
