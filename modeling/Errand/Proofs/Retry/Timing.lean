import Errand.Proofs.Retry.Chapters
import Errand.Values

/-!
When a retrying worker attempts a submission again: not before the wait is over that the strategy
wants, nor before the one that the service asked for, and never if that wait ends after the time
limit. In that case it gives up at the instant of the failure.

`Chapter.Timely` says so of a chapter of the diary, and `retries_in_time` of the whole diary, with
any strategy, any inner flow and any time that passes meanwhile.
-/

set_option autoImplicit false

namespace Errand.Retry

variable {V : ValueTypes} {σ ε : Type}

theorem max_nanos (d e : Duration) : (d.max e).nanos = max d.nanos e.nanos := by
  rw [Duration.max]
  split_ifs with hlt
  · exact (max_eq_right hlt.le).symm
  · exact (max_eq_left (not_lt.mp hlt)).symm

/-- A wait is as long as the service asked, if it asked for one. -/
theorem waitFor_rateLimited (everywhere : Bool) (asked delay : Duration) :
    (waitFor (.rateLimited everywhere (some asked)) delay).nanos = max delay.nanos asked.nanos :=
  max_nanos delay asked

/-- A wait is as long as the strategy wants. -/
theorem le_waitFor (cause : Failure) (delay : Duration) :
    delay.nanos ≤ (waitFor cause delay).nanos := by
  unfold waitFor
  split
  · rw [max_nanos]
    exact le_max_left ..
  · exact le_rfl

theorem Trial.mem_wakeUp?_iff {trial : Trial V} {wakeUp : ℕ} : wakeUp ∈ trial.wakeUp? ↔
    ∃ cause delay, trial.reply.answer = .failure cause ∧ trial.advice = .retryAfter delay ∧
      trial.answered + (waitFor cause delay).nanos = wakeUp := by
  rcases hanswer : trial.reply.answer with _ | _ | cause <;>
    rcases hadvice : trial.advice with delay | _ <;>
    simp [Trial.wakeUp?, Retry.wakeUp?, hanswer, hadvice]

namespace Chapter

/-- A chapter as the clock has it. -/
structure Timely (timeout : Option Duration) (chapter : Chapter V) : Prop where
  /-- All attempts are at the one submission, and at these instants. -/
  attempted : chapter.entries.filterMap Entry.attempt? =
    chapter.attempts.map fun instant ↦ (instant, chapter.submission)
  /-- Another attempt comes after the wait that the strategy and the service want, and only if that
  wait ends within the time limit. -/
  waits {i : ℕ} {trial : Trial V} {instant : ℕ} (htrial : chapter.trials[i]? = some trial)
    (hnext : chapter.attempts[i + 1]? = some instant) :
    ∃ cause delay, trial.reply.answer = .failure cause ∧ trial.advice = .retryAfter delay ∧
      trial.answered + delay.nanos ≤ instant ∧
      (∀ everywhere asked, cause = .rateLimited everywhere (some asked) →
        trial.answered + max delay.nanos asked.nanos ≤ instant) ∧
      ∀ limit ∈ timeout,
        trial.answered + (waitFor cause delay).nanos ≤ chapter.begun + limit.nanos
  /-- A failure is passed on at its instant if the wait after it would end past the time limit. -/
  givesUp {i : ℕ} {trial : Trial V} {cause : Failure} {delay limit : Duration}
    (htrial : chapter.trials[i]? = some trial) (hanswer : trial.reply.answer = .failure cause)
    (hadvice : trial.advice = .retryAfter delay) (hlimit : timeout = some limit)
    (hlate : chapter.begun + limit.nanos < trial.answered + (waitFor cause delay).nanos)
    (hrepresentable : trial.answered + (waitFor cause delay).nanos < clockLimit) :
    i + 1 = chapter.trials.length ∧
      chapter.outcome.settled? = some (trial.reply, trial.answered)

theorem Sound.timely {timeout : Option Duration} {chapter : Chapter V}
    (hsound : chapter.Sound timeout) : chapter.Timely timeout where
  attempted := chapter.filterMap_attempt
  waits htrial hnext := by
    obtain ⟨wakeUp, hwakeUp, hintime, hle⟩ := hsound.precedes htrial hnext
    obtain ⟨cause, delay, hanswer, hadvice, rfl⟩ := Trial.mem_wakeUp?_iff.mp hwakeUp
    refine ⟨cause, delay, hanswer, hadvice,
      (Nat.add_le_add_left (le_waitFor cause delay) _).trans hle, ?_, hintime⟩
    rintro everywhere asked rfl
    rwa [waitFor_rateLimited] at hle
  givesUp {i trial cause delay limit} htrial hanswer hadvice hlimit hlate hrepresentable := by
    have hwakeUp : ∀ wakeUp ∈ trial.wakeUp?,
        wakeUp = trial.answered + (waitFor cause delay).nanos := by
      intro wakeUp hmem
      simpa [Trial.wakeUp?, Retry.wakeUp?, hanswer, hadvice, eq_comm] using hmem
    refine hsound.settled htrial ?_ ?_
    · rintro ⟨wakeUp, hmem, hintime⟩
      exact absurd (hwakeUp wakeUp hmem ▸ hintime limit hlimit) (not_le.mpr hlate)
    · rintro ⟨wakeUp, hmem, hbeyond⟩
      exact absurd (hwakeUp wakeUp hmem ▸ hbeyond) (not_le.mpr hrepresentable)

end Chapter

/-- Whatever the strategy and the inner flow do and whatever time passes meanwhile, a worker waits
between two attempts as the strategy and the service want, and gives up at once where that would
take it past the time limit. -/
theorem retries_in_time (desk : Desk V σ) (inner : Flow V σ ε) (describe : ε → String)
    (timeout : Option Duration) (hpunctual : Punctual desk inner) (moments : ℕ → Moment desk)
    (s : σ) (n : ℕ) :
    ∃ chapters : List (Chapter V),
      (after desk inner describe timeout moments s n).diary = chapters.flatMap Chapter.entries ∧
        ∀ chapter ∈ chapters, chapter.Timely timeout := by
  obtain ⟨earlier, current, hdiary, hsound, -⟩ :=
    recorded_after desk inner describe timeout hpunctual moments s n
  exact ⟨earlier ++ current.toList, hdiary, fun chapter hmem ↦ (hsound chapter hmem).timely⟩

/-- A service that asks for three milliseconds is not asked again after one. -/
theorem retries_in_time_of_limiting :
    let request : Request (Payload values) :=
      { route := ⟨.get, "/"⟩, decode := fun _ ↦ .ok none, label := "Get" }
    let service : TimedService values ℕ := fun _ _ n ↦
      (if n = 0 then .error (.rateLimited false (some (.saturated (3 * nanosPerTick))))
        else .ok (.ok []), n + 1)
    let desk : Desk values (EventLoop values ℕ) := EventLoop.desk (.task 0) 0
    let inner := EventLoop.flow service (.task 0) (.line 0)
    let loop : EventLoop values ℕ := { EventLoop.start 0 fun _ ↦ [] with
      lines := #[.fresh], links := #[(Link.dispatch ⟨⟨0⟩, request⟩ (.fresh 1)).2.2] }
    let moments (_ : ℕ) : Moment desk := EventLoop.ticking (.task 0) 0 fun _ _ ↦
      .retryAfter (.saturated nanosPerTick)
    let timeout : Option Duration := some (.saturated nanosPerSecond)
    let stand := after desk inner FlowError.text timeout moments loop 7
    Punctual desk inner ∧
      (stand.diary.filterMap Entry.attempt?).map (·.1 / nanosPerTick) = [2, 6] ∧
      ∃ chapters : List (Chapter values), stand.diary = chapters.flatMap Chapter.entries ∧
        ∀ chapter ∈ chapters, chapter.Timely timeout := by
  intro request service desk inner loop moments timeout stand
  have hpunctual : Punctual desk inner := EventLoop.punctual service (.task 0) 0 (.line 0)
  have hinstants : (stand.diary.filterMap Entry.attempt?).map (·.1 / nanosPerTick) = [2, 6] := by
    decide +kernel
  exact ⟨hpunctual, hinstants,
    retries_in_time desk inner FlowError.text timeout hpunctual moments loop 7⟩

end Errand.Retry
