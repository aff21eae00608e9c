import Errand.Proofs.Executor.Standing

/-!
What a retrying task does about one submission. What it may answer comes from its policy and from
what its inner flow may answer (`Retry.Policy.answering`). As long as the clock can tell the waits
that have come up (`Retry.Policy.InTime`), the task goes on from one attempt to the next until it
has an answer to pass on (`Pursuit.advance`), whatever becomes of its own link meanwhile.
-/

set_option autoImplicit false

namespace Errand

variable {V : ValueTypes} {ω : Type}

theorem after?_isSome {now : ℕ} {d : Duration} :
    (after? now d).isSome = true ↔ now + d.nanos < clockLimit := by
  unfold after?
  split_ifs with h <;> simp [h]

/-- The wait that an event announces. -/
def Event.wait? : Event → Option Duration
  | retrying _ _ _ _ wait => some wait
  | _ => none

namespace Retry

variable {σ : Type} {policy : Policy}

/-- How the serving of a submission begins, if the clock can tell the deadline. -/
theorem exists_begin {now : ℕ} (htime : ∀ timeout, policy.timeout = some timeout →
      (after? now timeout).isSome = true) (s : Submission V) :
    ∃ deadline, (policy.timeout = none → deadline = none) ∧
      begin_ policy s now = (.again, .trying ⟨s, 0, deadline⟩ (.dispatch s)) := by
  rcases htimeout : policy.timeout with _ | timeout
  · exact ⟨none, fun _ ↦ rfl, by simp only [begin_, htimeout]⟩
  · obtain ⟨deadline, hdeadline⟩ := Option.isSome_iff_exists.mp (htime timeout htimeout)
    exact ⟨some deadline, nofun, by simp only [begin_, htimeout, hdeadline]⟩

section Reconsider

variable (desk : Desk V σ) (attempt : Attempt V) {cause : Failure} (reply : Reply V) {s noted : σ}
  {delay : Duration} {wakeUp : ℕ}

theorem reconsider_fail (s : σ)
    (hrecover : policy.recover ⟨attempt.submission.ticket, attempt.retries⟩ cause = .fail) :
    reconsider desk policy attempt cause reply s =
      ((.again, .replying attempt.submission.ticket reply), s) := by
  simp only [reconsider, hrecover]

variable
  (hrecover : policy.recover ⟨attempt.submission.ticket, attempt.retries⟩ cause = .retryAfter delay)
  (hnoted : desk.log (.retrying attempt.submission.ticket attempt.submission.route cause
    (attempt.retries + 1) (waitFor cause delay)) s = noted)
include hrecover hnoted

theorem reconsider_crash (hwakeUp : after? (desk.now noted) (waitFor cause delay) = none) :
    reconsider desk policy attempt cause reply s = ((.stopped, .crashed), noted) := by
  simp only [reconsider, hrecover, hnoted, hwakeUp]

variable (hwakeUp : after? (desk.now noted) (waitFor cause delay) = some wakeUp)
include hwakeUp

theorem reconsider_late (hlate : isLate attempt.deadline wakeUp = true) :
    reconsider desk policy attempt cause reply s =
      ((.again, .replying attempt.submission.ticket reply),
        desk.log (.gaveUp attempt.submission.ticket) noted) := by
  simp only [reconsider, hrecover, hnoted, hwakeUp, hlate, if_true]

theorem reconsider_early (hearly : isLate attempt.deadline wakeUp = false) :
    reconsider desk policy attempt cause reply s =
      ((.again, .sleeping { attempt with retries := attempt.retries + 1 } wakeUp), noted) := by
  simp only [reconsider, hrecover, hnoted, hwakeUp, hearly, Bool.false_eq_true, if_false]

end Reconsider

end Retry

namespace Retry.Policy

variable (policy : Policy) (answers : Answering V ω) (s : Submission V)

/-- So many attempts at a submission have failed, the service being in the state `w` before them and
in the other one after, and the policy has said of each failure that another attempt be made. -/
inductive Tried (w : ω) : ℕ → ω → Prop where
  | unattempted : Tried w 0 w
  | again {retries : ℕ} {w' w'' : ω} {cause : Failure} {delay : Duration}
    (htried : Tried w retries w') (hanswer : answers s w' (.failure cause) w'')
    (hretry : policy.recover ⟨s.ticket, retries⟩ cause = .retryAfter delay) :
    Tried w (retries + 1) w''

/-- The answer is no failure, or the policy says that it be passed on, or there may be no time. -/
def PassesOn (occasion : Occasion) (answer : Answer (Payload V)) : Prop :=
  ∀ cause, answer = .failure cause →
    policy.recover occasion cause = .fail ∨ policy.timeout ≠ none

/-- What may be answered to a submission by way of attempts at it. -/
def answering : Answering V ω := fun s w answer w'' ↦
  ∃ retries w', policy.Tried answers s w retries w' ∧ answers s w' answer w'' ∧
    policy.PassesOn ⟨s.ticket, retries⟩ answer

/-- No submission is retried more often than this. -/
def GivesUpAfter (most : ℕ) : Prop :=
  ∀ occasion cause, most ≤ occasion.retries → policy.recover occasion cause = .fail

/-- How often a submission may be retried, if that is bounded. -/
noncomputable def most : ℕ := sInf { most | policy.GivesUpAfter most }

/-- Counted from now, the clock can tell the end of the time limit of the policy, and of each wait
that has been announced and that the policy asks for. -/
structure InTime (loop : EventLoop V ω) : Prop where
  deadline : ∀ timeout, policy.timeout = some timeout → (after? loop.now timeout).isSome = true
  wakeUp : ∀ {ticket route cause retries delay},
    .retrying ticket route cause (retries + 1) (waitFor cause delay) ∈ loop.events →
      policy.recover ⟨ticket, retries⟩ cause = .retryAfter delay →
        (after? loop.now (waitFor cause delay)).isSome = true

variable {policy answers s}

theorem InTime.of_before {loop loop' : EventLoop V ω} (hbefore : loop.Before loop')
    (htime : policy.InTime loop') : policy.InTime loop := by
  have hnow : loop.now ≤ loop'.now := Nat.mul_le_mul_right nanosPerTick hbefore.clock
  have hearlier : ∀ {d : Duration}, (after? loop'.now d).isSome = true →
      (after? loop.now d).isSome = true := by
    intro d hsome
    rw [after?_isSome] at hsome ⊢
    exact (Nat.add_le_add_right hnow d.nanos).trans_lt hsome
  exact ⟨fun timeout h ↦ hearlier (htime.deadline timeout h),
    fun hevent hretry ↦ hearlier (htime.wakeUp (hbefore.events _ hevent) hretry)⟩

/-- It is enough that the clock can tell every wait announced, whoever asked for it. -/
theorem inTime_of_waits {loop : EventLoop V ω}
    (htimeout : ∀ timeout ∈ policy.timeout, (after? loop.now timeout).isSome = true)
    (hwaits : ∀ wait ∈ loop.events.toList.filterMap Event.wait?,
      (after? loop.now wait).isSome = true) : policy.InTime loop :=
  ⟨htimeout, fun hevent _ ↦
    hwaits _ (List.mem_filterMap.mpr ⟨_, Array.mem_toList_iff.mpr hevent, rfl⟩)⟩

/-- If the event loop is in time after a retry has been granted, the clock could tell when to wake
up for it. -/
theorem InTime.exists_wakeUp {who : Party} {index : ℕ} {attempt : Attempt V} {cause : Failure}
    {reply : Reply V} {delay : Duration} {loop noted : EventLoop V ω}
    (htime : policy.InTime
      (reconsider (EventLoop.desk who index) policy attempt cause reply loop).2)
    (hrecover : policy.recover ⟨attempt.submission.ticket, attempt.retries⟩ cause =
      .retryAfter delay)
    (hnoted : loop.log (.retrying attempt.submission.ticket attempt.submission.route cause
      (attempt.retries + 1) (waitFor cause delay)) = noted) :
    ∃ wakeUp, after? noted.now (waitFor cause delay) = some wakeUp := by
  have hbefore : noted.Before
      (reconsider (EventLoop.desk who index) policy attempt cause reply loop).2 := by
    rcases hwakeUp : after? noted.now (waitFor cause delay) with _ | wakeUp
    · rw [reconsider_crash _ _ _ hrecover hnoted hwakeUp]
      exact .refl noted
    · rcases hlate : isLate attempt.deadline wakeUp with _ | _
      · rw [reconsider_early _ _ _ hrecover hnoted hwakeUp hlate]
        exact .refl noted
      · rw [reconsider_late _ _ _ hrecover hnoted hwakeUp hlate]
        exact noted.before_log _
  have hannounced : .retrying attempt.submission.ticket attempt.submission.route cause
      (attempt.retries + 1) (waitFor cause delay) ∈ noted.events := by
    rw [← hnoted]
    exact Array.mem_push_self
  exact Option.isSome_iff_exists.mp ((htime.of_before hbefore).wakeUp hannounced hrecover)

/-- A retry that is made is one of those allowed. -/
theorem retries_lt_most (hbounded : ∃ most, policy.GivesUpAfter most) {occasion : Occasion}
    {cause : Failure} {delay : Duration}
    (hretry : policy.recover occasion cause = .retryAfter delay) :
    occasion.retries < policy.most := by
  by_contra hge
  have hfail : policy.recover occasion cause = .fail :=
    Nat.sInf_mem hbounded occasion cause (Nat.le_of_not_lt hge)
  rw [hretry] at hfail
  cases hfail

end Retry.Policy

namespace Footing

namespace Firm

variable {service : TimedService V ω} {footing : Footing V ω} (hfirm : footing.Firm service)
  (who : Party) {s : Submission V} {w : ω} {need : Need} {rank : ℕ} {loop : EventLoop V ω}
include hfirm

/-- Awaiting a reply from a flow with firm footing. -/
theorem pollAwait (hbusy : footing.busy s w loop.floor need rank) :
    (∃ loop', Stage.pollAwait (EventLoop.flow service who footing.dock) loop =
          (.waiting .await, loop') ∧
        loop'.floor = loop.floor ∧ (need = none → loop.allowance = 0)) ∨
      ∃ loop' answer, Stage.pollAwait (EventLoop.flow service who footing.dock) loop =
          (.replied ⟨s.ticket, answer⟩, loop') ∧
        loop.floor.Near footing.height loop'.floor ∧ loop'.service = loop.service ∧
        footing.idle loop'.floor ∧ footing.answers s w answer loop'.service := by
  rcases hfirm.reply who hbusy with ⟨loop', hreply, hfloor, hsteps⟩ | ⟨loop', answer, hreply, hrest⟩
  · exact Or.inl ⟨loop', by simp [Stage.pollAwait, EventLoop.flow, hreply], hfloor, hsteps⟩
  · exact Or.inr ⟨loop', answer, by simp [Stage.pollAwait, EventLoop.flow, hreply], hrest⟩

/-- A submission to a flow with firm footing is on its way at once. -/
theorem pollDispatch (submission : Submission V) (hidle : footing.idle loop.floor) :
    ∃ loop' need rank,
      Stage.pollDispatch (EventLoop.flow service who footing.dock) submission loop =
        Stage.pollAwait (EventLoop.flow service who footing.dock) loop' ∧
      loop.floor.Near footing.height loop'.floor ∧ loop'.allowance = loop.allowance ∧
      Relation.ReflTransGen (Asking service submission) loop.service loop'.service ∧
      footing.busy submission loop.service loop'.floor need rank ∧ rank ≤ footing.span := by
  obtain ⟨loop', need, rank, hdispatch, hrest⟩ := hfirm.dispatch submission hidle
  refine ⟨loop', need, rank, ?_, hrest⟩
  simp [Stage.pollDispatch, Stage.pollFlush, EventLoop.flow, hfirm.ready who hidle, hdispatch,
    hfirm.flush]

end Firm

/-! ### One submission -/

variable (inner : Footing V ω) (policy : Retry.Policy) (s : Submission V) (w : ω)

/-- The task of a retrying executor, above the tasks of its inner flow. -/
def retrier (phase : Retry.Phase V) : Job V := .retry inner.height inner.dock policy phase

/-- What further attempts may amount to after so many retries. -/
noncomputable def toCome (retries : ℕ) : ℕ := (inner.span + 3) * (policy.most - retries)

theorem toCome_of_lt {policy : Retry.Policy} {retries : ℕ} (hlt : retries < policy.most) :
    inner.toCome policy retries = inner.toCome policy (retries + 1) + (inner.span + 3) := by
  rw [toCome, toCome, ← Nat.mul_succ]
  congr 1
  omega

/-- How a retrying task stands with a submission, where `w` is the state of the service when it
came. -/
inductive Pursuit : Floor V ω → Need → ℕ → Prop where
  | dispatching {f : Floor V ω} (retries : ℕ) (deadline : Option ℕ)
    (htried : policy.Tried inner.answers s w retries f.service)
    (hdeadline : policy.timeout = none → deadline = none)
    (hjob : f.jobs inner.height =
      some (inner.retrier policy (.trying ⟨s, retries, deadline⟩ (.dispatch s))))
    (hidle : inner.idle f) :
    Pursuit f (some (inner.height, 0)) (inner.toCome policy retries + inner.span + 3)
  | awaiting {f : Floor V ω} {w' : ω} {need : Need} {rank : ℕ} (retries : ℕ) (deadline : Option ℕ)
    (htried : policy.Tried inner.answers s w retries w')
    (hdeadline : policy.timeout = none → deadline = none)
    (hjob : f.jobs inner.height =
      some (inner.retrier policy (.trying ⟨s, retries, deadline⟩ .await)))
    (hbusy : inner.busy s w' f need rank) :
    Pursuit f (some (need.getD (inner.height, 0))) (inner.toCome policy retries + rank + 2)
  | sleeping {f : Floor V ω} (retries : ℕ) (deadline : Option ℕ) (wakeUp : ℕ)
    (htried : policy.Tried inner.answers s w retries f.service)
    (hdeadline : policy.timeout = none → deadline = none)
    (hjob : f.jobs inner.height =
      some (inner.retrier policy (.sleeping ⟨s, retries, deadline⟩ wakeUp)))
    (hidle : inner.idle f) :
    Pursuit f (some (inner.height, EventLoop.tickOf wakeUp))
      (inner.toCome policy retries + inner.span + 4)
  | returning {f : Floor V ω} (answer : Answer (Payload V))
    (hanswer : policy.answering inner.answers s w answer f.service)
    (hjob : f.jobs inner.height =
      some (inner.retrier policy (.replying s.ticket ⟨s.ticket, answer⟩)))
    (hidle : inner.idle f) :
    Pursuit f (some (inner.height, 0)) 1

variable {inner policy s w} {service : TimedService V ω} (hfirm : inner.Firm service)
include hfirm

namespace Pursuit

/-- What is above the task makes no difference. -/
theorem beyond {f f' : Floor V ω} {need : Need} {rank : ℕ}
    (hbeyond : f.Beyond (inner.height + 1) f') (hpursuit : Pursuit inner policy s w f need rank) :
    Pursuit inner policy s w f' need rank := by
  have hbelow := hbeyond.mono (Nat.le_succ _)
  have hjobs := hbeyond.jobs inner.height (Nat.lt_succ_self _)
  have hservice := hbeyond.service
  cases hpursuit with
  | dispatching retries deadline htried hdeadline hjob hidle =>
    exact .dispatching retries deadline (hservice ▸ htried) hdeadline (hjobs.trans hjob)
      (hfirm.idle_beyond hbelow hidle)
  | awaiting retries deadline htried hdeadline hjob hbusy =>
    exact .awaiting retries deadline htried hdeadline (hjobs.trans hjob)
      ((hfirm.busy _ _).beyond hbelow hbusy)
  | sleeping retries deadline wakeUp htried hdeadline hjob hidle =>
    exact .sleeping retries deadline wakeUp (hservice ▸ htried) hdeadline (hjobs.trans hjob)
      (hfirm.idle_beyond hbelow hidle)
  | returning answer hanswer hjob hidle =>
    exact .returning answer (hservice ▸ hanswer) (hjobs.trans hjob)
      (hfirm.idle_beyond hbelow hidle)

omit hfirm in
theorem need_ne_none {f : Floor V ω} {need : Need} {rank : ℕ}
    (hpursuit : Pursuit inner policy s w f need rank) : need ≠ none := by
  cases hpursuit <;> simp

/-- Only the task or one below it can be needed. -/
theorem needed {f : Floor V ω} {need : Need} {rank id tick : ℕ}
    (hpursuit : Pursuit inner policy s w f need rank) (hneed : need = some (id, tick)) :
    id < inner.height + 1 ∧ f.jobs id ≠ none := by
  have hown : ∀ {job}, f.jobs inner.height = some job → id = inner.height →
      id < inner.height + 1 ∧ f.jobs id ≠ none := by
    rintro job hjob rfl
    exact ⟨Nat.lt_succ_self _, by simp [hjob]⟩
  cases hpursuit with
  | dispatching retries deadline htried hdeadline hjob hidle =>
    exact hown hjob (Prod.mk.inj (Option.some.inj hneed)).1.symm
  | @awaiting _ need rank retries deadline htried hdeadline hjob hbusy =>
    rcases need with _ | ⟨own, late⟩
    · exact hown hjob (Prod.mk.inj (Option.some.inj hneed)).1.symm
    · obtain ⟨rfl, rfl⟩ := Prod.mk.inj (Option.some.inj hneed)
      obtain ⟨hlt, hsome⟩ := (hfirm.busy _ _).needed hbusy
      exact ⟨Nat.lt_succ_of_lt hlt, hsome⟩
  | sleeping retries deadline wakeUp htried hdeadline hjob hidle =>
    exact hown hjob (Prod.mk.inj (Option.some.inj hneed)).1.symm
  | returning answer hanswer hjob hidle =>
    exact hown hjob (Prod.mk.inj (Option.some.inj hneed)).1.symm

/-- A phase of a task of the inner flow. -/
theorem advance_inner {loop : EventLoop V ω} {id : ℕ} {job : Job V} {need : Need} {rank : ℕ}
    (hid : id < inner.height) (htime : inner.inTime (job.advance service id loop).2)
    (hpursuit : Pursuit inner policy s w (loop.floor.setJob id job) need rank) :
    Advances service inner.height inner.definite (Asking service s) (Pursuit inner policy s w) id
      job loop need rank := by
  have hne : inner.height ≠ id := Nat.ne_of_gt hid
  -- The inner flow has nothing to do.
  have hwait : ∀ tick, inner.idle (loop.floor.setJob id job) →
      need = some (inner.height, tick) →
      Advances service inner.height inner.definite (Asking service s) (Pursuit inner policy s w) id
        job loop need rank := by
    rintro tick hidle rfl
    obtain ⟨loop', hadvance, hfloor⟩ := hfirm.idle_advance hid hidle
    refine .wait hadvance hfloor hpursuit ?_
    rintro ⟨⟨_, hneed, -⟩, -⟩
    exact hne (Prod.mk.inj (Option.some.inj hneed)).1
  cases hpursuit with
  | dispatching retries deadline htried hdeadline hjob hidle => exact hwait _ hidle rfl
  | sleeping retries deadline wakeUp htried hdeadline hjob hidle => exact hwait _ hidle rfl
  | returning answer hanswer hjob hidle => exact hwait _ hidle rfl
  | @awaiting _ need rank retries deadline htried hdeadline hjob hbusy =>
    obtain ⟨move, job', loop', need', rank', hadvance, hnear, hasks, hbusy', hprogress⟩ :=
      (hfirm.busy _ _).advance hid htime hbusy
    rw [Floor.setJob_jobs_of_ne _ _ _ hne] at hjob
    refine ⟨move, job', loop', _, _, hadvance, hnear, hasks,
      .awaiting retries deadline htried hdeadline ?_ hbusy', fun hdefinite ↦ ?_⟩
    · rw [Floor.setJob_jobs_of_ne _ _ _ hne, hnear.jobs, hjob]
    · refine ⟨?_, ?_⟩
      · rcases (hprogress hdefinite).kept with hlt | ⟨rfl, rfl⟩
        · exact Or.inl (by omega)
        · exact Or.inr ⟨rfl, rfl⟩
      · rintro ⟨⟨tick, hneed, htick⟩, hstep⟩
        rcases hown : need with _ | own <;> rw [hown] at hneed
        · exact absurd (Prod.mk.inj (Option.some.inj hneed)).1 hne
        · have hlt := (hprogress hdefinite).eased ⟨⟨tick, hown.trans hneed, htick⟩, hstep⟩
          omega

/-- An attempt has come to an answer, and the task has decided what to do about it. -/
theorem replied {loop loop₁ : EventLoop V ω} {stage : Stage V} {retries : ℕ} {deadline : Option ℕ}
    {w' : ω} {answer : Answer (Payload V)}
    (hpoll : stage.poll (EventLoop.flow service (.task inner.height) inner.dock) loop =
      (.replied ⟨s.ticket, answer⟩, loop₁)) (hidle : inner.idle loop₁.floor)
    (htime : policy.InTime ((inner.retrier policy
      (.trying ⟨s, retries, deadline⟩ stage)).advance service inner.height loop).2)
    (htried : policy.Tried inner.answers s w retries w')
    (hdeadline : policy.timeout = none → deadline = none)
    (hanswer : inner.answers s w' answer loop₁.service) :
    ∃ phase loop' need rank, (inner.retrier policy (.trying ⟨s, retries, deadline⟩ stage)).advance
          service inner.height loop = ((.again, inner.retrier policy phase), loop') ∧
      loop'.floor = loop₁.floor ∧
      Pursuit inner policy s w (loop'.floor.setJob inner.height (inner.retrier policy phase)) need
        rank ∧
      ((∃ most, policy.GivesUpAfter most) → rank < inner.toCome policy retries + 2) := by
  have hkept : ∀ job, inner.idle (loop₁.floor.setJob inner.height job) := fun job ↦
    hfirm.idle_beyond (Floor.beyond_setJob le_rfl job _) hidle
  have hreturning : policy.PassesOn ⟨s.ticket, retries⟩ answer →
      Pursuit inner policy s w
        (loop₁.floor.setJob inner.height
          (inner.retrier policy (.replying s.ticket ⟨s.ticket, answer⟩)))
        (some (inner.height, 0)) 1 :=
    fun hpass ↦ .returning answer ⟨retries, w', htried, hanswer, hpass⟩ (Floor.setJob_jobs_self ..)
      (hkept _)
  cases answer with
  | success value =>
    exact ⟨_, loop₁, _, _, by simp [retrier, Job.advance, Retry.advance, hpoll], rfl,
      hreturning (by rintro cause ⟨⟩), fun _ ↦ by omega⟩
  | filtered =>
    exact ⟨_, loop₁, _, _, by simp [retrier, Job.advance, Retry.advance, hpoll], rfl,
      hreturning (by rintro cause ⟨⟩), fun _ ↦ by omega⟩
  | failure cause =>
    have hadvance : ∀ {phase loop'},
        Retry.reconsider (EventLoop.desk (.task inner.height) inner.height) policy
          ⟨s, retries, deadline⟩ cause ⟨s.ticket, .failure cause⟩ loop₁ =
          ((.again, phase), loop') →
        (inner.retrier policy (.trying ⟨s, retries, deadline⟩ stage)).advance service inner.height
          loop = ((.again, inner.retrier policy phase), loop') := by
      intro phase loop' hreconsider
      simp [retrier, Job.advance, Retry.advance, hpoll, hreconsider]
    rcases hrecover : policy.recover ⟨s.ticket, retries⟩ cause with delay | _
    · obtain ⟨noted, hnoted, hfloor⟩ : ∃ noted, loop₁.log (.retrying s.ticket s.route cause
          (retries + 1) (Retry.waitFor cause delay)) = noted ∧ noted.floor = loop₁.floor :=
        ⟨_, rfl, EventLoop.log_floor ..⟩
      have htime' : policy.InTime
          (Retry.reconsider (EventLoop.desk (.task inner.height) inner.height) policy
            ⟨s, retries, deadline⟩ cause ⟨s.ticket, .failure cause⟩ loop₁).2 := by
        simpa [retrier, Job.advance, Retry.advance, hpoll] using htime
      obtain ⟨wakeUp, hwakeUp⟩ := htime'.exists_wakeUp hrecover hnoted
      rcases hlate : Retry.isLate deadline wakeUp with _ | _
      · have hsleeping : Pursuit inner policy s w (loop₁.floor.setJob inner.height
            (inner.retrier policy (.sleeping ⟨s, retries + 1, deadline⟩ wakeUp))) _ _ :=
          .sleeping (retries + 1) deadline wakeUp (htried.again hanswer hrecover) hdeadline
            (Floor.setJob_jobs_self ..) (hkept _)
        refine ⟨_, noted, _, _, hadvance
          (Retry.reconsider_early _ _ _ hrecover hnoted hwakeUp hlate), hfloor,
          hfloor ▸ hsleeping, fun hbounded ↦ ?_⟩
        have hlaps := inner.toCome_of_lt (Retry.Policy.retries_lt_most hbounded hrecover)
        simp only at hlaps
        omega
      · have htimeout : policy.timeout ≠ none := by
          intro hnone
          rw [hdeadline hnone] at hlate
          cases hlate
        have hgivesUp : (noted.log (.gaveUp s.ticket)).floor = loop₁.floor :=
          (EventLoop.log_floor ..).trans hfloor
        exact ⟨_, noted.log (.gaveUp s.ticket), _, _,
          hadvance (Retry.reconsider_late _ _ _ hrecover hnoted hwakeUp hlate), hgivesUp,
          hgivesUp ▸ hreturning fun _ _ ↦ Or.inr htimeout, fun _ ↦ by omega⟩
    · refine ⟨_, loop₁, _, _, hadvance (Retry.reconsider_fail _ _ _ _ hrecover), rfl, hreturning ?_,
        fun _ ↦ by omega⟩
      exact fun _ hcause ↦ Or.inl (by cases hcause; exact hrecover)

/-- An attempt comes to an answer, or the inner flow keeps the task waiting. -/
theorem await {loop loop₁ : EventLoop V ω} (stage : Stage V) {retries : ℕ} {deadline : Option ℕ}
    {w' : ω} {need₁ : Need} {rank₁ : ℕ}
    (hpoll : stage.poll (EventLoop.flow service (.task inner.height) inner.dock) loop =
      Stage.pollAwait (EventLoop.flow service (.task inner.height) inner.dock) loop₁)
    (htime : policy.InTime ((inner.retrier policy
      (.trying ⟨s, retries, deadline⟩ stage)).advance service inner.height loop).2)
    (htried : policy.Tried inner.answers s w retries w')
    (hdeadline : policy.timeout = none → deadline = none)
    (hbusy : inner.busy s w' loop₁.floor need₁ rank₁) :
    (∃ loop', (inner.retrier policy (.trying ⟨s, retries, deadline⟩ stage)).advance service
          inner.height loop =
        ((.waiting, inner.retrier policy (.trying ⟨s, retries, deadline⟩ .await)), loop') ∧
      loop'.floor = loop₁.floor ∧ (need₁ = none → loop₁.allowance = 0)) ∨
    ∃ phase loop' need rank, (inner.retrier policy (.trying ⟨s, retries, deadline⟩ stage)).advance
          service inner.height loop = ((.again, inner.retrier policy phase), loop') ∧
      loop₁.floor.Near inner.height loop'.floor ∧ loop'.service = loop₁.service ∧
      Pursuit inner policy s w (loop'.floor.setJob inner.height (inner.retrier policy phase)) need
        rank ∧
      ((∃ most, policy.GivesUpAfter most) → rank < inner.toCome policy retries + 2) := by
  rcases hfirm.pollAwait (.task inner.height) hbusy with
    ⟨loop', hawait, hfloor, hsteps⟩ | ⟨loop', answer, hawait, hnear, hservice, hidle, hanswer⟩
  · refine Or.inl ⟨loop', ?_, hfloor, hsteps⟩
    simp [retrier, Job.advance, Retry.advance, hpoll, hawait]
  · obtain ⟨phase, loop'', need, rank, hadvance, hfloor, hrest⟩ :=
      replied hfirm (hpoll.trans hawait) hidle htime htried hdeadline hanswer
    exact Or.inr ⟨phase, loop'', need, rank, hadvance, hfloor ▸ hnear,
      (congrArg Floor.service hfloor).trans hservice, hrest⟩

/-- A phase of the task, unless it is to send its reply. -/
theorem advance {loop : EventLoop V ω} {job : Job V} {need : Need} {rank : ℕ}
    (htime : policy.InTime (job.advance service inner.height loop).2) (hrank : 1 < rank)
    (hpursuit : Pursuit inner policy s w (loop.floor.setJob inner.height job) need rank) :
    Advances service inner.height (∃ most, policy.GivesUpAfter most) (Asking service s)
      (Pursuit inner policy s w) inner.height job loop need rank := by
  have hwait : ∀ {loop' : EventLoop V ω}, job.advance service inner.height loop =
        ((.waiting, job), loop') → loop'.floor = loop.floor →
      ¬ (need.MetBy inner.height loop.clock ∧ 0 < loop.allowance) →
      Advances service inner.height (∃ most, policy.GivesUpAfter most) (Asking service s)
        (Pursuit inner policy s w) inner.height job loop need rank :=
    fun hadvance hfloor ↦ .wait hadvance hfloor hpursuit
  have hkept : ∀ {f : Floor V ω} {job job'}, inner.idle (f.setJob inner.height job) →
      inner.idle (f.setJob inner.height job') := fun hidle ↦
    hfirm.idle_beyond (Floor.beyond_setJob le_rfl _ _)
      (hfirm.idle_beyond (Floor.beyond_setJob le_rfl _ _).symm hidle)
  cases hpursuit with
  | dispatching retries deadline htried hdeadline hjob hidle =>
    obtain rfl : job = inner.retrier policy (.trying ⟨s, retries, deadline⟩ (.dispatch s)) := by
      simpa using hjob
    obtain ⟨loop₁, need₁, rank₁, hpoll, hnear, hallowance, hasks, hbusy, hle⟩ :=
      hfirm.pollDispatch (.task inner.height) s
        (hfirm.idle_beyond (Floor.beyond_setJob le_rfl _ _).symm hidle)
    rcases await hfirm (.dispatch s) hpoll htime htried hdeadline hbusy with
      ⟨loop', hadvance, hfloor, -⟩ |
        ⟨phase, loop', need, rank, hadvance, hnear', hservice, hpursuit', hlt⟩
    · have hservice : loop'.service = loop₁.service := congrArg Floor.service hfloor
      exact ⟨.waiting, _, loop', _, _, hadvance, hfloor ▸ hnear, hservice ▸ hasks,
        .awaiting retries deadline htried hdeadline (Floor.setJob_jobs_self ..)
          ((hfirm.busy _ _).beyond (Floor.beyond_setJob le_rfl _ _) (hfloor ▸ hbusy)), fun _ ↦
            .of_lt (by omega)⟩
    · refine .again hadvance (hnear.trans hnear') (hservice ▸ hasks) hpursuit' fun hbounded ↦ ?_
      have := hlt hbounded
      omega
  | @awaiting _ need rank retries deadline htried hdeadline hjob hbusy =>
    obtain rfl : job = inner.retrier policy (.trying ⟨s, retries, deadline⟩ .await) := by
      simpa using hjob
    have hbusy' := (hfirm.busy _ _).beyond (Floor.beyond_setJob le_rfl _ _).symm hbusy
    rcases await hfirm .await rfl htime htried hdeadline hbusy' with
      ⟨loop', hadvance, hfloor, hsteps⟩ |
        ⟨phase, loop', need', rank', hadvance, hnear, hservice, hpursuit', hlt⟩
    · refine hwait hadvance hfloor ?_
      rintro ⟨⟨tick, hneed, -⟩, hstep⟩
      rcases need with _ | ⟨id, tick'⟩
      · exact hstep.ne' (hsteps rfl)
      · have hid := ((hfirm.busy _ _).needed hbusy).1
        exact hid.ne (Prod.mk.inj (Option.some.inj hneed)).1
    · refine .again hadvance hnear (hservice ▸ .refl) hpursuit' fun hbounded ↦ ?_
      have := hlt hbounded
      omega
  | sleeping retries deadline wakeUp htried hdeadline hjob hidle =>
    obtain rfl : job = inner.retrier policy (.sleeping ⟨s, retries, deadline⟩ wakeUp) := by
      simpa using hjob
    rcases EventLoop.desk_sleepUntil (.task inner.height) inner.height wakeUp loop with
      ⟨loop', hsleep, hfloor, hstalled⟩ | ⟨loop', hsleep, hfloor⟩
    · refine hwait (by simp [retrier, Job.advance, Retry.advance, hsleep]) hfloor ?_
      rintro ⟨⟨tick, ⟨⟩, htick⟩, hstep⟩
      omega
    · have hdispatching : Pursuit inner policy s w (loop.floor.setJob inner.height
          (inner.retrier policy (.trying ⟨s, retries, deadline⟩ (.dispatch s)))) _ _ :=
        .dispatching retries deadline htried hdeadline (Floor.setJob_jobs_self ..) (hkept hidle)
      have hservice : loop'.service = loop.service := congrArg Floor.service hfloor
      exact .again (by simp [retrier, Job.advance, Retry.advance, hsleep])
        (hfloor ▸ .refl ..) (hservice ▸ .refl) (hfloor ▸ hdispatching) fun _ ↦ by omega
  | returning answer hanswer hjob hidle => omega

end Pursuit

end Footing

end Errand
