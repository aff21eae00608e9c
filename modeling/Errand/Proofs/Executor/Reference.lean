import Errand.Proofs.Executor.Foundation

/-!
What executors answer whose policies have no time limits and give up in the end: to every submission
the same, given the state of the service, whatever the schedule (`Executor.Determined.answers`). A
run over a flow of such an executor shows what the evaluation of its plan shows, and leaves the
service as if it had been told what the run dispatched (`Executor.Determined.keeps`).
-/

set_option autoImplicit false

namespace Errand

variable {V : ValueTypes} {S ε ω : Type}

/-! ### Answers that depend on the service alone -/

/-- The state of a service that has answered submissions, one after the other. -/
def Answerer.tell (answerer : Answerer V ω) (submissions : List (Submission V)) (w : ω) : ω :=
  submissions.foldl (fun w submission ↦ (answerer submission w).2) w

/-- Only what the answerer does may be answered. -/
def Answering.FollowedBy (answers : Answering V ω) (answerer : Answerer V ω) : Prop :=
  ∀ ⦃submission w answer w'⦄, answers submission w answer w' →
    answerer submission w = (answer, w')

theorem Told.eq_tell {answers : Answering V ω} {answerer : Answerer V ω}
    (hanswers : answers.FollowedBy answerer)
    {exchanges : List (Submission V × Answer (Payload V))} {w w' : ω}
    (htold : Told answers exchanges w w') : w' = answerer.tell (exchanges.map Prod.fst) w := by
  induction exchanges generalizing w with
  | nil => exact htold.symm
  | cons exchange exchanges ih =>
    obtain ⟨between, hanswer, hlater⟩ := htold
    rw [ih hlater, List.map_cons, Answerer.tell, Answerer.tell, List.foldl_cons, hanswers hanswer]

/-- Where nothing is in flight, every submission has been answered. -/
theorem Charge.Fits.exchangesIn_fst {charge : Charge V} {past : List (Happening V S ε)}
    (hfits : charge.Fits past) (hsettled : Settled past) :
    (exchangesIn past).map Prod.fst = dispatchedIn past := by
  have hlength : (answersIn past).length = (dispatchedIn past).length := by
    cases charge with
    | idle => exact hfits.2
    | serving submission =>
      obtain ⟨⟨later, hflight⟩, -⟩ := hfits
      exact absurd hsettled hflight.not_settled
    | closed => exact hfits.2.1
  exact List.map_fst_zip hlength.ge

namespace Retry.Policy

variable (policy : Policy)

/-- Attempts at a submission, so many more of them at most, until one comes to an answer that is to
be passed on. -/
def insist (answerer : Answerer V ω) : ℕ → ℕ → Answerer V ω
  | 0, _, submission, w => answerer submission w
  | more + 1, retries, submission, w =>
    match answerer submission w with
    | (.failure cause, w') =>
      match policy.recover ⟨submission.ticket, retries⟩ cause with
      | .fail => (.failure cause, w')
      | .retryAfter _ => insist answerer more (retries + 1) submission w'
    | answered => answered

variable {policy} {answers : Answering V ω} {answerer : Answerer V ω} {submission : Submission V}
  {w w' : ω} {retries : ℕ}

theorem Tried.le_of_givesUpAfter {most : ℕ} (hbounded : policy.GivesUpAfter most)
    (htried : policy.Tried answers submission w retries w') : retries ≤ most := by
  cases htried with
  | unattempted => exact Nat.zero_le _
  | @again retries _ _ cause delay htried hanswer hretry =>
    by_contra hmost
    have hfail := hbounded ⟨submission.ticket, retries⟩ cause
      (Nat.le_of_lt_succ (Nat.lt_of_not_le hmost))
    rw [hretry] at hfail
    cases hfail

/-- Attempts that have failed are those that come first. -/
theorem Tried.insist_eq (hanswers : answers.FollowedBy answerer)
    (htried : policy.Tried answers submission w retries w') (more : ℕ) :
    policy.insist answerer (retries + more) 0 submission w =
      policy.insist answerer more retries submission w' := by
  induction htried generalizing more with
  | unattempted => rw [Nat.zero_add]
  | @again retries w' w'' cause delay htried hanswer hretry ih =>
    rw [Nat.add_right_comm, Nat.add_assoc, ih (more + 1), insist, hanswers hanswer]
    simp only [hretry]

/-- Without a time limit, attempts go on until one comes to an answer to be passed on. -/
theorem answering_followedBy {most : ℕ} (hanswers : answers.FollowedBy answerer)
    (htimeout : policy.timeout = none) (hbounded : policy.GivesUpAfter most) :
    (policy.answering answers).FollowedBy (policy.insist answerer most 0) := by
  rintro submission w answer w'' ⟨retries, w', htried, hanswer, hpasses⟩
  obtain ⟨more, rfl⟩ := Nat.exists_eq_add_of_le (htried.le_of_givesUpAfter hbounded)
  rw [htried.insist_eq hanswers more]
  cases more with
  | zero => exact hanswers hanswer
  | succ more =>
    rw [insist, hanswers hanswer]
    cases answer with
    | success value => rfl
    | filtered => rfl
    | failure cause =>
      have hfail := (hpasses cause rfl).resolve_right (not_not_intro htimeout)
      simp only [hfail]

end Retry.Policy

namespace Executor

/-- No policy of the executor has a time limit or retries for ever. -/
def Determined : Executor → Prop
  | loopback | tasks _ _ => True
  | retrying inner policy _ =>
    inner.Determined ∧ policy.timeout = none ∧ ∃ most, policy.GivesUpAfter most
  | script => False

/-- How the flows of an executor answer, given the service, if that determines it. -/
noncomputable def answerer (service : Service V ω) : Executor → Answerer V ω
  | loopback | tasks _ _ | script => service.answerer
  | retrying inner policy _ => policy.insist (inner.answerer service) policy.most 0

/-- Counted from now, the clock can tell the time limits of the policies of the executor, and the
waits that they have asked for so far. -/
def InTime : Executor → EventLoop V ω → Prop
  | loopback, _ | tasks _ _, _ | script, _ => True
  | retrying inner policy _, loop => inner.InTime loop ∧ policy.InTime loop

theorem footing_inTime (executor : Executor) (service : TimedService V ω) (loop : EventLoop V ω) :
    (executor.footing service).inTime loop ↔ executor.InTime loop := by
  induction executor with
  | loopback => exact Iff.rfl
  | tasks latency buffer => exact Iff.rfl
  | retrying inner policy buffer ih => exact and_congr_left fun _ ↦ ih
  | script => exact Iff.rfl

namespace Determined

variable {executor : Executor} (hdetermined : executor.Determined)
include hdetermined

theorem answers (service : Service V ω) :
    (executor.footing fun _ ↦ service).answers.FollowedBy (executor.answerer service) := by
  induction executor with
  | loopback => exact fun submission w answer w' ⟨tick, hanswer⟩ ↦ hanswer
  | tasks latency buffer => exact fun submission w answer w' ⟨tick, hanswer⟩ ↦ hanswer
  | retrying inner policy buffer ih =>
    obtain ⟨hinner, htimeout, hbounded⟩ := hdetermined
    exact Retry.Policy.answering_followedBy (ih hinner) htimeout (Nat.sInf_mem hbounded)
  | script => exact hdetermined.elim

theorem definite (service : TimedService V ω) : (executor.footing service).definite := by
  induction executor with
  | loopback => exact trivial
  | tasks latency buffer => exact trivial
  | retrying inner policy buffer ih => exact ⟨ih hdetermined.1, hdetermined.2.2⟩
  | script => exact hdetermined.elim

section Run

variable [Resumes V S] (hroomy : executor.Roomy) (service : Service V ω) (schedule : Schedule)
  (plan : Plan V S) {w : ω} {loop : EventLoop V ω}
  (hidle : (executor.footing fun _ ↦ service).Holds .idle w (0, loop))
include hroomy hidle

/-- As long as it is in time, a run is intact, shows no more than the evaluation of its plan, and
whenever nothing is in flight, the service has been told what was dispatched. -/
theorem keeps {n : ℕ} {c : Course V S (ℕ × EventLoop V ω) FlowError}
    (hc : c = Course.after ((executor.footing fun _ ↦ service).flow (fun _ ↦ service) schedule) plan
      (0, loop) n) (htime : executor.InTime c.state.2) :
    Intact c.history ∧
      (∃ depth, c.trace <+: (account (executor.answerer service) depth plan w).trace) ∧
      (Settled c.history →
        c.state.2.service = (executor.answerer service).tell (dispatchedIn c.history) w) := by
  have hfirm := hroomy.firm fun _ ↦ service
  have hanswers := hdetermined.answers service
  rw [← executor.footing_inTime fun _ ↦ service] at htime
  subst hc
  obtain ⟨hintact, charge, w', hholds, htold, hfits⟩ :=
    (hfirm.faithful schedule).keeps plan hidle (not_not_intro htime)
  refine ⟨hintact, ?_, fun hsettled ↦ ?_⟩
  · -- So many calls have been made, and no more need be answered.
    refine (hfirm.faithful_upTo schedule _).shown (hfirm.lively_upTo schedule _)
      (fun h ↦ hanswers h) plan hidle (not_or_intro (Nat.not_succ_le_self _) (not_not_intro htime))
  · have htell := htold.eq_tell hanswers
    rw [hfits.exchangesIn_fst hsettled] at htell
    rw [← htell]
    cases charge with
    | idle => exact hholds.2.2
    | serving submission =>
      obtain ⟨⟨later, hflight⟩, -⟩ := hfits
      exact absurd hsettled hflight.not_settled
    | closed => exact hholds.2.2

/-- Under a fair schedule, a run that is always in time shows what the evaluation of its plan
shows. -/
theorem shows_iff (hfair : schedule.Fair)
    (htime : ∀ n, executor.InTime (Course.after
      ((executor.footing fun _ ↦ service).flow (fun _ ↦ service) schedule) plan (0, loop)
        n).state.2) (shown : List (Milestone V)) :
    (Course.Shows ((executor.footing fun _ ↦ service).flow (fun _ ↦ service) schedule) plan
        (0, loop) shown ↔
          ∃ depth, shown <+: (account (executor.answerer service) depth plan w).trace) ∧
      (Course.EndsShowing ((executor.footing fun _ ↦ service).flow (fun _ ↦ service) schedule) plan
          (0, loop) shown ↔
        ∃ depth, (account (executor.answerer service) depth plan w).finish ≠ .cut ∧
          (account (executor.answerer service) depth plan w).trace = shown) := by
  have hfirm := hroomy.firm fun _ ↦ service
  exact (hfirm.faithful schedule).shows_iff (hfirm.lively schedule hfair (hdetermined.definite _))
    (fun h ↦ hdetermined.answers service h) plan hidle
    (fun n ↦ not_not_intro ((executor.footing_inTime _ _).mpr (htime n))) shown

end Run

end Determined

end Executor

end Errand
