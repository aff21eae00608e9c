import Errand.Proofs.Retry.Diary
import Mathlib.Data.List.Chain

/-!
The diary of a retrying worker falls into chapters, one for each submission. A chapter is a list of
answered attempts (`Trial`) and what came after them (`Outcome`). In a sound chapter each attempt
but the first follows a reply after which the strategy granted it, in time and not before the wait
was over; and a reply that is passed on is the last one, at the instant at which it came
(`Chapter.Sound`).

`recorded_after` says that the diary consists of sound chapters at any time, all of them but the
last passed on, and how the phase of the worker goes with the last one (`Attends`).
-/

set_option autoImplicit false

namespace Errand.Retry

variable {V : ValueTypes} {σ ε : Type}

/-- The instant of an attempt, and what was attempted. -/
def Entry.attempt? (entry : Entry V) : Option (ℕ × Submission V) :=
  match entry.note with
  | .attempted submission => some (entry.instant, submission)
  | _ => none

/-- An attempt that has been answered. -/
structure Trial (V : ValueTypes) where
  attempted : ℕ
  answered : ℕ
  reply : Reply V
  /-- What the strategy says about the reply, if that is a failure. -/
  advice : Strategy

/-- What comes after the answered attempts. -/
inductive Outcome (V : ValueTypes) where
  | due
  | underWay (attempted : ℕ)
  /-- The inner flow breaks down before it takes another attempt. -/
  | broken (instant : ℕ)
  /-- The inner flow breaks down with an attempt under way. -/
  | lost (attempted instant : ℕ)
  | settled (reply : Reply V) (instant : ℕ)
  | passedOn (reply : Reply V) (instant later : ℕ)
  | returned (reply : Reply V) (instant later : ℕ)

/-- What is done about one submission. -/
structure Chapter (V : ValueTypes) where
  begun : ℕ
  submission : Submission V
  trials : List (Trial V)
  outcome : Outcome V

/-- An instant within the time limit. -/
def InTime (timeout : Option Duration) (begun instant : ℕ) : Prop :=
  ∀ limit ∈ timeout, instant ≤ begun + limit.nanos

instance (timeout : Option Duration) (begun instant : ℕ) :
    Decidable (InTime timeout begun instant) :=
  inferInstanceAs (Decidable (∀ limit ∈ timeout, _))

theorem isLate_eq_false_iff {timeout : Option Duration} {begun instant : ℕ} :
    isLate (timeout.map (begun + ·.nanos)) instant = false ↔ InTime timeout begun instant := by
  cases timeout <;> simp [isLate, InTime]

namespace Trial

def entries (submission : Submission V) (retries : ℕ) (trial : Trial V) : Diary V :=
  ⟨trial.attempted, .attempted submission⟩ :: ⟨trial.answered, .answered trial.reply⟩ ::
    asking trial.answered retries trial.reply trial.advice

/-- The end of the wait that the strategy grants. -/
def wakeUp? (trial : Trial V) : Option ℕ := Retry.wakeUp? trial.answered trial.reply trial.advice

variable (timeout : Option Duration) (begun : ℕ) (trial : Trial V)

/-- Another attempt is granted, and not too late. -/
def Granted : Prop := ∃ wakeUp ∈ trial.wakeUp?, InTime timeout begun wakeUp

instance : Decidable (trial.Granted timeout begun) :=
  inferInstanceAs (Decidable (∃ wakeUp ∈ trial.wakeUp?, _))

/-- Another attempt at this instant is granted: it is not too early either. -/
def Precedes (instant : ℕ) : Prop :=
  ∃ wakeUp ∈ trial.wakeUp?, InTime timeout begun wakeUp ∧ wakeUp ≤ instant

/-- The end of the wait is beyond the clock. -/
def Overstays : Prop := ∃ wakeUp ∈ trial.wakeUp?, clockLimit ≤ wakeUp

variable {timeout begun trial}

theorem Precedes.mono {now later : ℕ} (hprecedes : trial.Precedes timeout begun now)
    (hlater : now ≤ later) : trial.Precedes timeout begun later := by
  obtain ⟨wakeUp, hwakeUp, hintime, hle⟩ := hprecedes
  exact ⟨wakeUp, hwakeUp, hintime, hle.trans hlater⟩

theorem Precedes.granted {instant : ℕ} (hprecedes : trial.Precedes timeout begun instant) :
    trial.Granted timeout begun := by
  obtain ⟨wakeUp, hwakeUp, hintime, -⟩ := hprecedes
  exact ⟨wakeUp, hwakeUp, hintime⟩

end Trial

namespace Outcome

def entries (submission : Submission V) : Outcome V → Diary V
  | due => []
  | underWay attempted => [⟨attempted, .attempted submission⟩]
  | broken instant => [⟨instant, .brokeDown⟩]
  | lost attempted instant => [⟨attempted, .attempted submission⟩, ⟨instant, .brokeDown⟩]
  | settled reply instant => [⟨instant, .settled reply⟩]
  | passedOn reply instant later => [⟨instant, .settled reply⟩, ⟨later, .passedOn reply⟩]
  | returned reply instant later => [⟨instant, .settled reply⟩, ⟨later, .returned reply⟩]

/-- The instant of an attempt that has not been answered. -/
def started? : Outcome V → Option ℕ
  | underWay attempted | lost attempted _ => some attempted
  | due | broken _ | settled _ _ | passedOn _ _ _ | returned _ _ _ => none

/-- The reply to be passed on, and the instant at which that was decided. -/
def settled? : Outcome V → Option (Reply V × ℕ)
  | settled reply instant | passedOn reply instant _ | returned reply instant _ =>
    some (reply, instant)
  | due | underWay _ | broken _ | lost _ _ => none

/-- An outcome that can come after these trials. -/
def Follows (timeout : Option Duration) (begun : ℕ) (trials : List (Trial V)) : Outcome V → Prop
  | due => ∀ last ∈ trials.getLast?, last.Granted timeout begun ∨ last.Overstays
  | underWay instant | broken instant | lost instant _ =>
    ∀ last ∈ trials.getLast?, last.Precedes timeout begun instant
  | settled reply instant | passedOn reply instant _ | returned reply instant _ =>
    ∃ last ∈ trials.getLast?,
      last.reply = reply ∧ last.answered = instant ∧ ¬last.Granted timeout begun

namespace Follows

variable {timeout : Option Duration} {begun instant : ℕ} {trials : List (Trial V)}
  {outcome : Outcome V} {last : Trial V}

theorem of_started (hfollows : outcome.Follows timeout begun trials)
    (hstarted : outcome.started? = some instant) :
    ∀ last ∈ trials.getLast?, last.Precedes timeout begun instant := by
  cases outcome with
  | underWay attempted | lost attempted _ =>
    cases hstarted
    exact hfollows
  | due | broken _ | settled _ _ | passedOn _ _ _ | returned _ _ _ => cases hstarted

theorem of_settled {reply : Reply V} (hfollows : outcome.Follows timeout begun trials)
    (hsettled : outcome.settled? = some (reply, instant)) :
    ∃ last ∈ trials.getLast?,
      last.reply = reply ∧ last.answered = instant ∧ ¬last.Granted timeout begun := by
  cases outcome with
  | settled _ _ | passedOn _ _ _ | returned _ _ _ =>
    cases hsettled
    exact hfollows
  | due | underWay _ | broken _ | lost _ _ => cases hsettled

theorem settled_of_refused (hfollows : outcome.Follows timeout begun trials)
    (hlast : last ∈ trials.getLast?) (hrefused : ¬last.Granted timeout begun)
    (hrepresentable : ¬last.Overstays) :
    outcome.settled? = some (last.reply, last.answered) := by
  cases outcome with
  | due => exact absurd (hfollows last hlast) (not_or.mpr ⟨hrefused, hrepresentable⟩)
  | underWay _ | broken _ | lost _ _ => exact absurd (hfollows last hlast).granted hrefused
  | settled _ _ | passedOn _ _ _ | returned _ _ _ =>
    obtain ⟨last', hlast', rfl, rfl, -⟩ := hfollows
    obtain rfl := Option.mem_unique hlast hlast'
    rfl

end Follows

end Outcome

namespace Chapter

/-- What is written about the answered attempts. -/
def account (chapter : Chapter V) : Diary V :=
  ⟨chapter.begun, .began chapter.submission⟩ ::
    chapter.trials.zipIdx.flatMap fun (trial, retries) ↦ trial.entries chapter.submission retries

def entries (chapter : Chapter V) : Diary V :=
  chapter.account ++ chapter.outcome.entries chapter.submission

/-- The instants of the attempts. -/
def attempts (chapter : Chapter V) : List ℕ :=
  chapter.trials.map Trial.attempted ++ chapter.outcome.started?.toList

structure Sound (timeout : Option Duration) (chapter : Chapter V) : Prop where
  trials : chapter.trials.IsChain fun trial next ↦
    trial.Precedes timeout chapter.begun next.attempted
  outcome : chapter.outcome.Follows timeout chapter.begun chapter.trials

def IsPassedOn (chapter : Chapter V) : Prop :=
  ∃ reply instant later, chapter.outcome = .passedOn reply instant later

/-- The next instant to wait for is beyond the clock. -/
structure Overruns (timeout : Option Duration) (chapter : Chapter V) : Prop where
  begun : chapter.trials = [] →
    ∃ limit ∈ timeout, clockLimit ≤ chapter.begun + limit.nanos
  trials : ∀ last ∈ chapter.trials.getLast?, last.Overstays

/-- The chapter of a submission that has just been taken. -/
def fresh (begun : ℕ) (submission : Submission V) : Chapter V := ⟨begun, submission, [], .due⟩

theorem sound_fresh (timeout : Option Duration) (begun : ℕ) (submission : Submission V) :
    (fresh begun submission).Sound timeout :=
  ⟨.nil, by simp [fresh, Outcome.Follows]⟩

theorem entries_of_due {chapter : Chapter V} (hdue : chapter.outcome = .due)
    (outcome : Outcome V) : { chapter with outcome }.entries =
      chapter.entries ++ outcome.entries chapter.submission := by
  rw [entries, entries, hdue, Outcome.entries, List.append_nil]
  rfl

/-- Goes on with another answered attempt. -/
def goOn (chapter : Chapter V) (trial : Trial V) (outcome : Outcome V) : Chapter V :=
  { chapter with trials := chapter.trials ++ [trial], outcome }

theorem account_goOn (chapter : Chapter V) (trial : Trial V) (outcome : Outcome V) :
    (chapter.goOn trial outcome).account =
      chapter.account ++ trial.entries chapter.submission chapter.trials.length := by
  simp [account, goOn, List.zipIdx_append]

theorem filterMap_attempt_trial (submission : Submission V) (retries : ℕ) (trial : Trial V) :
    (trial.entries submission retries).filterMap Entry.attempt? =
      [(trial.attempted, submission)] := by
  rcases hanswer : trial.reply.answer with _ | _ | _ <;>
    simp only [Trial.entries, asking, hanswer] <;> rfl

theorem filterMap_attempt (chapter : Chapter V) : chapter.entries.filterMap Entry.attempt? =
    chapter.attempts.map fun instant ↦ (instant, chapter.submission) := by
  have houtcome : (chapter.outcome.entries chapter.submission).filterMap Entry.attempt? =
      chapter.outcome.started?.toList.map fun instant ↦ (instant, chapter.submission) := by
    cases chapter.outcome <;> rfl
  have htrials : chapter.trials.zipIdx.flatMap (fun (trial, _) ↦
      [(trial.attempted, chapter.submission)]) =
        chapter.trials.map fun trial ↦ (trial.attempted, chapter.submission) := by
    calc chapter.trials.zipIdx.flatMap (fun (trial, _) ↦ [(trial.attempted, chapter.submission)])
        = (chapter.trials.zipIdx.map Prod.fst).map fun trial ↦
            (trial.attempted, chapter.submission) := by
          rw [List.map_map, List.map_eq_flatMap]
          rfl
      _ = chapter.trials.map fun trial ↦ (trial.attempted, chapter.submission) := by
          rw [List.zipIdx_map_fst]
  have hbegan : Entry.attempt? ⟨chapter.begun, .began chapter.submission⟩ = none := rfl
  rw [entries, List.filterMap_append, houtcome, account, List.filterMap_cons_none hbegan,
    List.filterMap_flatMap]
  simp only [filterMap_attempt_trial, htrials, attempts, List.map_append, List.map_map]
  rfl

end Chapter

theorem Chapter.entries_goOn {chapter : Chapter V} {trial : Trial V}
    (houtcome : chapter.outcome = .underWay trial.attempted) (outcome : Outcome V) :
    (chapter.goOn trial outcome).entries = chapter.entries ++
      (⟨trial.answered, .answered trial.reply⟩ ::
        asking trial.answered chapter.trials.length trial.reply trial.advice ++
          outcome.entries chapter.submission) := by
  have hunderWay : chapter.outcome.entries chapter.submission =
      [⟨trial.attempted, .attempted chapter.submission⟩] := by
    rw [houtcome, Outcome.entries]
  rw [entries, entries, account_goOn, hunderWay, Trial.entries]
  simp [goOn]

/-- The attempt is at the submission of the chapter, as often retried and with its time limit. -/
structure Serves (timeout : Option Duration) (attempt : Attempt V) (chapter : Chapter V) :
    Prop where
  submission : attempt.submission = chapter.submission
  retries : attempt.retries = chapter.trials.length
  deadline : attempt.deadline = timeout.map (chapter.begun + ·.nanos)

/-- The phase in which the worker is, at an instant and with a chapter begun. -/
inductive Attends (timeout : Option Duration) (now : ℕ) : Phase V → Option (Chapter V) → Prop where
  | next : Attends timeout now .next none
  | due (chapter : Chapter V) (attempt : Attempt V) (houtcome : chapter.outcome = .due)
    (hserves : Serves timeout attempt chapter)
    (hlast : ∀ last ∈ chapter.trials.getLast?, last.Precedes timeout chapter.begun now) :
    Attends timeout now (.trying attempt (.dispatch chapter.submission)) (some chapter)
  | underWay (chapter : Chapter V) (attempt : Attempt V) (stage : Stage V) (instant : ℕ)
    (houtcome : chapter.outcome = .underWay instant) (hserves : Serves timeout attempt chapter)
    (hstage : stage = .flush ∨ stage = .await) :
    Attends timeout now (.trying attempt stage) (some chapter)
  | sleeping (chapter : Chapter V) (attempt : Attempt V) (wakeUp : ℕ)
    (houtcome : chapter.outcome = .due) (hserves : Serves timeout attempt chapter)
    (hlast : ∃ last ∈ chapter.trials.getLast?,
      wakeUp ∈ last.wakeUp? ∧ InTime timeout chapter.begun wakeUp) :
    Attends timeout now (.sleeping attempt wakeUp) (some chapter)
  | replying (chapter : Chapter V) (ticket : Ticket) (reply : Reply V) (instant : ℕ)
    (houtcome : chapter.outcome = .settled reply instant) :
    Attends timeout now (.replying ticket reply) (some chapter)
  | closed (phase : Phase V) (current : Option (Chapter V))
    (hclosed : phase = .closing ∨ phase = .stopped ∨ phase = .crashed)
    (hdue : ∀ chapter ∈ current, chapter.outcome = .due → chapter.Overruns timeout) :
    Attends timeout now phase current

/-- The diary consists of sound chapters, and the worker attends to the last one. -/
def Recorded (timeout : Option Duration) (view : View V) : Prop :=
  ∃ (earlier : List (Chapter V)) (current : Option (Chapter V)),
    view.2.2 = (earlier ++ current.toList).flatMap Chapter.entries ∧
      (∀ chapter ∈ earlier ++ current.toList, chapter.Sound timeout) ∧
      (∀ chapter ∈ earlier, chapter.IsPassedOn) ∧ Attends timeout view.2.1 view.1 current

namespace Attends

variable {timeout : Option Duration} {now later : ℕ} {phase : Phase V} {attempt : Attempt V}
  {current : Option (Chapter V)}

theorem mono (hattends : Attends timeout now phase current) (hlater : now ≤ later) :
    Attends timeout later phase current := by
  cases hattends with
  | next => exact .next
  | due chapter attempt houtcome hserves hlast =>
    exact .due chapter attempt houtcome hserves fun last hmem ↦ (hlast last hmem).mono hlater
  | underWay chapter attempt stage instant houtcome hserves hstage =>
    exact .underWay chapter attempt stage instant houtcome hserves hstage
  | sleeping chapter attempt wakeUp houtcome hserves hlast =>
    exact .sleeping chapter attempt wakeUp houtcome hserves hlast
  | replying chapter ticket reply instant houtcome =>
    exact .replying chapter ticket reply instant houtcome
  | closed phase current hclosed hdue => exact .closed phase current hclosed hdue

theorem of_next (hattends : Attends timeout now .next current) : current = none := by
  cases hattends with
  | next => rfl
  | closed _ _ hclosed => simp at hclosed

theorem of_dispatch {submission : Submission V}
    (hattends : Attends timeout now (.trying attempt (.dispatch submission)) current) :
    ∃ chapter, current = some chapter ∧ chapter.submission = submission ∧
      chapter.outcome = .due ∧ Serves timeout attempt chapter ∧
      ∀ last ∈ chapter.trials.getLast?, last.Precedes timeout chapter.begun now := by
  cases hattends with
  | due chapter _ houtcome hserves hlast => exact ⟨chapter, rfl, rfl, houtcome, hserves, hlast⟩
  | underWay _ _ _ _ _ _ hstage => simp at hstage
  | closed _ _ hclosed => simp at hclosed

/-- An attempt that has been taken is under way. -/
theorem of_taken {stage : Stage V} (hattends : Attends timeout now (.trying attempt stage) current)
    (hstage : stage = .flush ∨ stage = .await) :
    ∃ chapter instant, current = some chapter ∧ chapter.outcome = .underWay instant ∧
      Serves timeout attempt chapter := by
  cases hattends with
  | due => simp at hstage
  | underWay chapter _ _ instant houtcome hserves _ =>
    exact ⟨chapter, instant, rfl, houtcome, hserves⟩
  | closed _ _ hclosed => simp at hclosed

theorem of_sleeping {wakeUp : ℕ}
    (hattends : Attends timeout now (.sleeping attempt wakeUp) current) :
    ∃ chapter, current = some chapter ∧ chapter.outcome = .due ∧ Serves timeout attempt chapter ∧
      ∃ last ∈ chapter.trials.getLast?,
        wakeUp ∈ last.wakeUp? ∧ InTime timeout chapter.begun wakeUp := by
  cases hattends with
  | sleeping chapter _ _ houtcome hserves hlast => exact ⟨chapter, rfl, houtcome, hserves, hlast⟩
  | closed _ _ hclosed => simp at hclosed

theorem of_replying {ticket : Ticket} {reply : Reply V}
    (hattends : Attends timeout now (.replying ticket reply) current) :
    ∃ chapter instant, current = some chapter ∧ chapter.outcome = .settled reply instant := by
  cases hattends with
  | replying chapter _ _ instant houtcome => exact ⟨chapter, instant, rfl, houtcome⟩
  | closed _ _ hclosed => simp at hclosed

end Attends

/-- Another answered attempt keeps a chapter sound, if its outcome can come after it. -/
theorem Chapter.Sound.goOn {timeout : Option Duration} {chapter : Chapter V} {trial : Trial V}
    {outcome : Outcome V} (hsound : chapter.Sound timeout)
    (houtcome : chapter.outcome = .underWay trial.attempted)
    (hfollows : outcome.Follows timeout chapter.begun (chapter.trials ++ [trial])) :
    (chapter.goOn trial outcome).Sound timeout := by
  have hunderWay := hsound.outcome
  rw [houtcome] at hunderWay
  refine ⟨?_, hfollows⟩
  refine List.isChain_append.mpr ⟨hsound.trials, .singleton _, fun last hlast next hnext ↦ ?_⟩
  obtain rfl : trial = next := by simpa using hnext
  exact hunderWay last hlast

namespace Recorded

variable {timeout : Option Duration} {phase phase' : Phase V} {attempt : Attempt V}
  {now later : ℕ} {diary added : Diary V}

/-- Goes on with the chapter that the worker attends to. -/
theorem goOn (hrecorded : Recorded timeout (phase, now, diary))
    (hstep : ∀ current, Attends timeout now phase current → ∃ current',
      current'.toList.flatMap Chapter.entries =
          current.toList.flatMap Chapter.entries ++ added ∧
        ((∀ chapter ∈ current, chapter.Sound timeout) →
          ∀ chapter ∈ current', chapter.Sound timeout) ∧
        Attends timeout later phase' current') :
    Recorded timeout (phase', later, diary ++ added) := by
  obtain ⟨earlier, current, rfl, hsound, hpassed, hattends⟩ := hrecorded
  obtain ⟨current', hentries, hkept, hattends'⟩ := hstep current hattends
  refine ⟨earlier, current', ?_, ?_, hpassed, hattends'⟩
  · simp [List.flatMap_append, hentries]
  · intro chapter hchapter
    rcases List.mem_append.mp hchapter with hearlier | hcurrent
    · exact hsound chapter (List.mem_append_left _ hearlier)
    · exact hkept (fun c hc ↦ hsound c (List.mem_append_right _ (Option.mem_toList.mpr hc)))
        chapter (Option.mem_toList.mp hcurrent)

/-- Leaves the diary as it is. -/
theorem stay (hrecorded : Recorded timeout (phase, now, diary))
    (hstep : ∀ current, Attends timeout now phase current → Attends timeout later phase' current) :
    Recorded timeout (phase', later, diary) := by
  obtain ⟨earlier, current, hdiary, hsound, hpassed, hattends⟩ := hrecorded
  exact ⟨earlier, current, hdiary, hsound, hpassed, hstep current hattends⟩

/-- Goes on with the chapter that has been begun. -/
theorem goOn_some (hrecorded : Recorded timeout (phase, now, diary))
    (hstep : ∀ current, Attends timeout now phase current → ∃ chapter chapter',
      current = some chapter ∧ chapter'.entries = chapter.entries ++ added ∧
        (chapter.Sound timeout → chapter'.Sound timeout) ∧
        Attends timeout later phase' (some chapter')) :
    Recorded timeout (phase', later, diary ++ added) := by
  refine hrecorded.goOn fun current hattends ↦ ?_
  obtain ⟨chapter, chapter', rfl, hentries, hsound, hattends'⟩ := hstep current hattends
  refine ⟨some chapter', ?_, ?_, hattends'⟩
  · simpa using hentries
  · simpa using hsound

/-- Begins a chapter. -/
theorem begin (hrecorded : Recorded timeout (.next, now, diary)) {submission : Submission V}
    (hattends : Attends timeout now phase' (some (.fresh now submission))) :
    Recorded timeout (phase', now, diary ++ [⟨now, .began submission⟩]) := by
  refine hrecorded.goOn fun current hnext ↦ ?_
  rw [hnext.of_next]
  refine ⟨some (.fresh now submission), rfl, fun _ ↦ ?_, hattends⟩
  simpa using Chapter.sound_fresh timeout now submission

/-- The attempt under way is answered. -/
theorem answer (hrecorded : Recorded timeout (.trying attempt .await, now, diary))
    (reply : Reply V) (advice : Strategy) (outcome : Outcome V)
    (hstep : ∀ chapter instant, Serves timeout attempt chapter →
      outcome.Follows timeout chapter.begun (chapter.trials ++ [⟨instant, now, reply, advice⟩]) ∧
        Attends timeout now phase' (some (chapter.goOn ⟨instant, now, reply, advice⟩ outcome))) :
    Recorded timeout (phase', now, diary ++ (⟨now, .answered reply⟩ ::
      asking now attempt.retries reply advice ++ outcome.entries attempt.submission)) := by
  refine hrecorded.goOn_some fun current hattends ↦ ?_
  obtain ⟨chapter, instant, rfl, houtcome, hserves⟩ := hattends.of_taken (.inr rfl)
  obtain ⟨hfollows, hattends'⟩ := hstep chapter instant hserves
  refine ⟨chapter, _, rfl, ?_, fun hsound ↦ hsound.goOn houtcome hfollows, hattends'⟩
  rw [Chapter.entries_goOn houtcome, hserves.retries, hserves.submission]

/-- The attempt under way is answered, and another one is due. -/
theorem answer_due (hrecorded : Recorded timeout (.trying attempt .await, now, diary))
    (reply : Reply V) (advice : Strategy)
    (hstep : ∀ chapter (trial : Trial V), Serves timeout attempt chapter →
      trial.wakeUp? = wakeUp? now reply advice →
      (trial.Granted timeout chapter.begun ∨ trial.Overstays) ∧
        Attends timeout now phase' (some (chapter.goOn trial .due))) :
    Recorded timeout (phase', now, diary ++ (⟨now, .answered reply⟩ ::
      asking now attempt.retries reply advice)) := by
  have hanswered : Recorded timeout (phase', now, diary ++ (⟨now, .answered reply⟩ ::
      asking now attempt.retries reply advice ++ Outcome.due.entries attempt.submission)) := by
    refine hrecorded.answer reply advice .due fun chapter instant hserves ↦ ?_
    obtain ⟨hdue, hattends⟩ := hstep chapter ⟨instant, now, reply, advice⟩ hserves rfl
    refine ⟨fun last hlast ↦ ?_, hattends⟩
    rw [List.getLast?_concat] at hlast
    exact Option.some.inj hlast ▸ hdue
  simpa [Outcome.entries] using hanswered

/-- The inner flow breaks down, before it takes the attempt or with the attempt under way. -/
theorem breakDown {stage : Stage V}
    (hrecorded : Recorded timeout (.trying attempt stage, now, diary)) :
    Recorded timeout (.closing, now, diary ++ [⟨now, .brokeDown⟩]) := by
  refine hrecorded.goOn_some fun current hattends ↦ ?_
  cases hattends with
  | due chapter _ houtcome hserves hlast =>
    exact ⟨chapter, { chapter with outcome := .broken now }, rfl,
      Chapter.entries_of_due houtcome _, fun hsound ↦ ⟨hsound.trials, hlast⟩,
      .closed _ _ (by simp) (by simp)⟩
  | underWay chapter _ _ instant houtcome hserves hstage =>
    refine ⟨chapter, { chapter with outcome := .lost instant now }, rfl,
      by simp [Chapter.entries, Chapter.account, houtcome, Outcome.entries],
      fun hsound ↦ ⟨hsound.trials, ?_⟩, .closed _ _ (by simp) (by simp)⟩
    have hunderWay := hsound.outcome
    rwa [houtcome] at hunderWay
  | closed _ _ hclosed => simp at hclosed

/-- Passes the reply on, which ends the chapter. -/
theorem send {ticket : Ticket} {reply : Reply V}
    (hrecorded : Recorded timeout (.replying ticket reply, now, diary)) :
    Recorded timeout (.next, now, diary ++ [⟨now, .passedOn reply⟩]) := by
  obtain ⟨earlier, current, rfl, hsound, hpassed, hattends⟩ := hrecorded
  obtain ⟨chapter, instant, rfl, houtcome⟩ := hattends.of_replying
  have hchapter := hsound chapter (by simp)
  have hsettled := hchapter.outcome
  rw [houtcome] at hsettled
  let sent : Chapter V := { chapter with outcome := .passedOn reply instant now }
  refine ⟨earlier ++ [sent], none, ?_, ?_, ?_, .next⟩
  · simp [sent, Chapter.entries, Chapter.account, houtcome, Outcome.entries]
  · simpa [or_imp, forall_and] using
      ⟨fun c hc ↦ hsound c (by simp [hc]), (⟨hchapter.trials, hsettled⟩ : sent.Sound timeout)⟩
  · simpa [or_imp, forall_and] using
      ⟨hpassed, (⟨reply, instant, now, rfl⟩ : sent.IsPassedOn)⟩

theorem turned {view view' : View V} (hrecorded : Recorded timeout view)
    (hturned : Turned timeout view view') : Recorded timeout view' := by
  cases hturned with
  | passes phase diary hlater =>
    exact hrecorded.stay fun current hattends ↦ hattends.mono hlater
  | begins submission diary now =>
    exact hrecorded.begin
      (.due (.fresh now submission) _ rfl ⟨rfl, rfl, rfl⟩ (by simp [Chapter.fresh]))
  | overruns submission diary now hlimit hbeyond =>
    have hoverruns : (Chapter.fresh now submission).Overruns timeout :=
      ⟨fun _ ↦ ⟨_, hlimit, hbeyond⟩, by simp [Chapter.fresh]⟩
    exact hrecorded.begin (.closed _ _ (by simp) (by simpa using fun _ ↦ hoverruns))
  | ends diary now =>
    refine hrecorded.stay fun current hattends ↦ ?_
    rw [hattends.of_next]
    exact .closed _ _ (by simp) (by simp)
  | attempts attempt submission diary now =>
    refine hrecorded.goOn_some fun current hattends ↦ ?_
    obtain ⟨chapter, rfl, rfl, houtcome, hserves, hlast⟩ := hattends.of_dispatch
    refine ⟨chapter, { chapter with outcome := .underWay now }, rfl,
      Chapter.entries_of_due houtcome _, fun hsound ↦ ⟨hsound.trials, hlast⟩, ?_⟩
    exact .underWay _ attempt .flush now rfl
      ⟨hserves.submission, hserves.retries, hserves.deadline⟩ (.inl rfl)
  | flushes attempt diary now =>
    refine hrecorded.stay fun current hattends ↦ ?_
    obtain ⟨chapter, instant, rfl, houtcome, hserves⟩ := hattends.of_taken (.inl rfl)
    exact .underWay chapter attempt .await instant houtcome hserves (.inr rfl)
  | breaksDown attempt stage diary now => exact hrecorded.breakDown
  | settles attempt reply advice diary now hpasses =>
    refine hrecorded.answer reply advice (.settled reply now) fun chapter instant hserves ↦
      ⟨⟨_, List.getLast?_concat, rfl, rfl, ?_⟩, .replying _ _ reply now rfl⟩
    rintro ⟨wakeUp, hwakeUp, hintime⟩
    have hlate := hpasses wakeUp hwakeUp
    rw [hserves.deadline, isLate_eq_false_iff.mpr hintime] at hlate
    cases hlate
  | @retries attempt reply advice diary now wakeUp hwakeUp hintime =>
    refine hrecorded.answer_due reply advice fun chapter trial hserves htrial ↦ ?_
    rw [hserves.deadline, isLate_eq_false_iff] at hintime
    have hmem : wakeUp ∈ trial.wakeUp? := htrial.trans hwakeUp
    refine ⟨.inl ⟨wakeUp, hmem, hintime⟩, .sleeping _ _ wakeUp rfl ⟨hserves.submission, ?_,
      hserves.deadline⟩ ⟨trial, List.getLast?_concat, hmem, hintime⟩⟩
    simp [Chapter.goOn, hserves.retries]
  | @overstays attempt reply advice diary now wakeUp hwakeUp hbeyond =>
    refine hrecorded.answer_due reply advice fun chapter trial hserves htrial ↦ ?_
    have hoverstays : trial.Overstays := ⟨wakeUp, htrial.trans hwakeUp, hbeyond⟩
    refine ⟨.inr hoverstays, .closed _ _ (by simp) ?_⟩
    simpa using fun _ ↦ ⟨by simp [Chapter.goOn], by simpa [Chapter.goOn] using hoverstays⟩
  | wakes attempt diary hwakeUp =>
    refine hrecorded.stay fun current hattends ↦ ?_
    obtain ⟨chapter, rfl, houtcome, hserves, last, hmem, hgranted, hintime⟩ := hattends.of_sleeping
    rw [hserves.submission]
    refine .due chapter attempt houtcome hserves fun last' hmem' ↦ ?_
    obtain rfl := Option.mem_unique hmem hmem'
    exact ⟨_, hgranted, hintime, hwakeUp⟩
  | sends ticket reply diary now => exact hrecorded.send
  | returns ticket reply diary now =>
    refine hrecorded.goOn_some fun current hattends ↦ ?_
    obtain ⟨chapter, instant, rfl, houtcome⟩ := hattends.of_replying
    refine ⟨chapter, { chapter with outcome := .returned reply instant now }, rfl,
      by simp [Chapter.entries, Chapter.account, houtcome, Outcome.entries],
      fun hsound ↦ ⟨hsound.trials, ?_⟩, .closed _ _ (by simp) (by simp)⟩
    have hsettled := hsound.outcome
    rwa [houtcome] at hsettled
  | stops diary now =>
    refine hrecorded.stay fun current hattends ↦ ?_
    cases hattends with
    | closed _ _ _ hdue => exact .closed _ _ (by simp) hdue

end Recorded

/-! ### Sound chapters -/

namespace Chapter.Sound

variable {timeout : Option Duration} {chapter : Chapter V} {i : ℕ} {trial : Trial V}

theorem getLast?_of_length (htrial : chapter.trials[i]? = some trial)
    (hlast : i + 1 = chapter.trials.length) : trial ∈ chapter.trials.getLast? := by
  rw [List.getLast?_eq_getElem?, ← hlast]
  exact htrial

theorem attempts_of_lt (hi : i < chapter.trials.length) :
    chapter.attempts[i]? = some chapter.trials[i].attempted := by
  simp [attempts, List.getElem?_append_left, hi]

/-- The attempt after a reply was granted. -/
theorem precedes (hsound : chapter.Sound timeout) {instant : ℕ}
    (htrial : chapter.trials[i]? = some trial) (hnext : chapter.attempts[i + 1]? = some instant) :
    trial.Precedes timeout chapter.begun instant := by
  obtain ⟨hi, rfl⟩ := List.getElem?_eq_some_iff.mp htrial
  rcases Nat.lt_or_ge (i + 1) chapter.trials.length with hmore | hlast
  · obtain rfl := Option.some.inj ((attempts_of_lt hmore).symm.trans hnext)
    exact List.isChain_iff_getElem.mp hsound.trials i hmore
  · have hlength : i + 1 = chapter.trials.length := by omega
    have hmem := getLast?_of_length htrial hlength
    have hstarted : chapter.outcome.started? = some instant := by
      rw [attempts, List.getElem?_append_right (by simp [hlength])] at hnext
      rcases hstarted : chapter.outcome.started? with _ | started
      · simp [hstarted] at hnext
      · simpa [hstarted, hlength] using hnext
    exact hsound.outcome.of_started hstarted _ hmem

/-- A reply that grants no other attempt, now or ever, is passed on as soon as it is there. -/
theorem settled (hsound : chapter.Sound timeout) (htrial : chapter.trials[i]? = some trial)
    (hrefused : ¬trial.Granted timeout chapter.begun) (hrepresentable : ¬trial.Overstays) :
    i + 1 = chapter.trials.length ∧
      chapter.outcome.settled? = some (trial.reply, trial.answered) := by
  have hlast : i + 1 = chapter.trials.length := by
    by_contra hmore
    have hi := (List.getElem?_eq_some_iff.mp htrial).1
    exact hrefused (hsound.precedes htrial (attempts_of_lt (by omega))).granted
  exact ⟨hlast, hsound.outcome.settled_of_refused (getLast?_of_length htrial hlast) hrefused
    hrepresentable⟩

end Chapter.Sound

variable (desk : Desk V σ) (inner : Flow V σ ε) (describe : ε → String)
  (timeout : Option Duration)

theorem recorded_after (hpunctual : Punctual desk inner) (moments : ℕ → Moment desk) (s : σ)
    (n : ℕ) : Recorded timeout ((after desk inner describe timeout moments s n).view desk) := by
  induction n with
  | zero => exact ⟨[], none, rfl, by simp, by simp, .next⟩
  | succ n ih =>
    have hturned := turned describe timeout (moments n) hpunctual
      (after desk inner describe timeout moments s n)
    rw [after]
    generalize (turn desk inner describe timeout (moments n)
      (after desk inner describe timeout moments s n)).2.view desk = view at hturned ⊢
    induction hturned with
    | refl => exact ih
    | tail _ hstep ih' => exact ih'.turned hstep

end Errand.Retry
