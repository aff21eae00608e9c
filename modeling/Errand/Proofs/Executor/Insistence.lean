import Errand.Backoff
import Errand.Proofs.Executor.Reference

/-!
Retrying by a backoff does not show. With a backoff that allows so many retries, a run is what it
would be over a service that answers with the first answer that is not a rate limit, or the last one
there may be (`Answerer.insisting`), and the inner executor is handed as many copies of each
submission as that takes, one after the other (`Answerer.copies`, `Executor.retrying_unseen`).
-/

set_option autoImplicit false

namespace Errand

open Course

variable {V : ValueTypes} {S ω : Type}

def Failure.isRateLimited : Failure → Bool
  | rateLimited _ _ => true
  | http _ _ | decode _ | dropped _ => false

def Answer.isRateLimited {α : Type} : Answer α → Bool
  | failure cause => cause.isRateLimited
  | success _ | filtered => false

namespace Answerer

variable (answerer : Answerer V ω)

/-- The first answer that is not a rate limit among the first one and so many more, or else the last
of them. -/
def insisting : ℕ → Answerer V ω
  | 0, submission, w => answerer submission w
  | more + 1, submission, w =>
    let (answer, w') := answerer submission w
    if answer.isRateLimited then insisting more submission w' else (answer, w')

/-- How many rate limits come before another answer, if there are no more than so many; otherwise,
so many. -/
def limits : ℕ → Submission V → ω → ℕ
  | 0, _, _ => 0
  | more + 1, submission, w =>
    let (answer, w') := answerer submission w
    if answer.isRateLimited then limits more submission w' + 1 else 0

variable {answerer} {submission : Submission V} {w w' : ω} {answer : Answer (Payload V)}

theorem limits_succ (hanswer : answerer submission w = (answer, w'))
    (hlimited : answer.isRateLimited = true) (more : ℕ) :
    answerer.limits (more + 1) submission w = answerer.limits more submission w' + 1 := by
  simp [limits, hanswer, hlimited]

theorem tell_replicate_succ (hanswer : answerer submission w = (answer, w')) (j : ℕ) :
    answerer.tell (.replicate (j + 1) submission) w =
      answerer.tell (.replicate j submission) w' := by
  rw [tell, List.replicate_succ, List.foldl_cons, hanswer, tell]

/-- Where the service gives `k` rate limits before another answer, they are all counted or as many
as may be. -/
theorem limits_eq_min {k : ℕ}
    (hlimits : ∀ j < k,
      (answerer submission (answerer.tell (.replicate j submission) w)).1.isRateLimited = true)
    (hother : (answerer submission (answerer.tell (.replicate k submission) w)).1.isRateLimited =
      false) (most : ℕ) :
    answerer.limits most submission w = min k most := by
  induction most generalizing k w with
  | zero => rw [limits, Nat.min_zero]
  | succ most ih =>
    rcases hanswer : answerer submission w with ⟨answer, w'⟩
    cases k with
    | zero =>
      have hnot : answer.isRateLimited = false := by
        have hfirst : (answerer submission w).1.isRateLimited = false := hother
        rwa [hanswer] at hfirst
      simp [limits, hanswer, hnot]
    | succ k =>
      have hlimited : answer.isRateLimited = true := by
        have hfirst : (answerer submission w).1.isRateLimited = true := hlimits 0 (Nat.succ_pos k)
        rwa [hanswer] at hfirst
      rw [tell_replicate_succ hanswer] at hother
      rw [limits_succ hanswer hlimited, Nat.succ_min_succ, ih (fun j hj ↦
        tell_replicate_succ hanswer j ▸ hlimits (j + 1) (Nat.succ_lt_succ hj)) hother]

end Answerer

namespace Backoff

variable (b : Backoff) (draw : Retry.Occasion → Backoff.Draw)

/-- A backoff retries a rate limit as long as there are retries left, and nothing else. -/
theorem recover_eq_fail_iff (occasion : Retry.Occasion) (cause : Failure) :
    (b.policy draw).recover occasion cause = .fail ↔
      b.maxRetries ≤ occasion.retries ∨ cause.isRateLimited = false := by
  cases cause <;> simp [policy, delay, Failure.isRateLimited]

theorem givesUpAfter : (b.policy draw).GivesUpAfter b.maxRetries := fun occasion cause hmost ↦
  (b.recover_eq_fail_iff draw occasion cause).mpr (Or.inl hmost)

theorem insist_eq (answerer : Answerer V ω) {more retries : ℕ}
    (hretries : retries + more = b.maxRetries) (submission : Submission V) (w : ω) :
    (b.policy draw).insist answerer more retries submission w =
      answerer.insisting more submission w := by
  induction more generalizing retries w with
  | zero => rfl
  | succ more ih =>
    rw [Retry.Policy.insist, Answerer.insisting]
    rcases answerer submission w with ⟨_ | _ | cause, w'⟩
    · simp [Answer.isRateLimited]
    · simp [Answer.isRateLimited]
    · have hiff := b.recover_eq_fail_iff draw ⟨submission.ticket, retries⟩ cause
      rcases hrecover : (b.policy draw).recover ⟨submission.ticket, retries⟩ cause
        with delay | _ <;> rw [hrecover] at hiff
      · have hlimited : cause.isRateLimited = true := by
          by_contra hother
          cases hiff.mpr (Or.inr (by simpa using hother))
        simp only [Answer.isRateLimited, hlimited, if_true, hrecover]
        exact ih (by omega) w'
      · have hother : cause.isRateLimited = false :=
          (hiff.mp rfl).resolve_left (by simp only [not_le]; omega)
        simp [Answer.isRateLimited, hother, hrecover]

end Backoff

namespace Executor

theorem Determined.backoff {inner : Executor} (hdetermined : inner.Determined) (b : Backoff)
    (draw : Retry.Occasion → Backoff.Draw) (buffer : ℕ) :
    (retrying inner (b.policy draw) buffer).Determined :=
  ⟨hdetermined, rfl, b.maxRetries, b.givesUpAfter draw⟩

end Executor

end Errand
