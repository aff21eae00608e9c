import Errand.Proofs.Executor.Pursuit

/-!
What the flows of executors rest on. A retrying executor puts a task on top of what its inner
executor rests on, and that keeps the footing firm (`Footing.firm_retrying`). So every executor
whose channels have room has firm footing (`Executor.Roomy.firm`), from the moment it opens a flow
on a fresh event loop (`Executor.Roomy.opens`).
-/

set_option autoImplicit false

namespace Errand

variable {V : ValueTypes} {ω : Type}

namespace Footing

/-! ### A retrying task -/

variable (inner : Footing V ω) (policy : Retry.Policy) (buffer : ℕ)

/-- How a retrying task stands while a submission is being served. -/
inductive Served (s : Submission V) : ω → Floor V ω → Need → ℕ → Prop where
  | received {f : Floor V ω}
    (hchannel : f.channels inner.height = some (.opened [s] [] buffer))
    (hjob : f.jobs inner.height = some (inner.retrier policy .next)) (hidle : inner.idle f) :
    Served s f.service f (some (inner.height, 0)) (inner.toCome policy 0 + inner.span + 4)
  | pursued {w : ω} {f : Floor V ω} {need : Need} {rank : ℕ}
    (hchannel : f.channels inner.height = some (.opened [] [] buffer))
    (hpursuit : Pursuit inner policy s w f need rank) : Served s w f need rank
  | returned {w : ω} {f : Floor V ω} (answer : Answer (Payload V))
    (hchannel : f.channels inner.height = some (.opened [] [⟨s.ticket, answer⟩] buffer))
    (hjob : f.jobs inner.height = some (inner.retrier policy .next)) (hidle : inner.idle f)
    (hanswer : policy.answering inner.answers s w answer f.service) : Served s w f none 0

/-- How a retrying task stands to which nothing will come any more. -/
inductive Forlorn : Floor V ω → Prop where
  | resting {f : Floor V ω} (phase : Retry.Phase V) (hphase : phase = .next ∨ phase = .closing)
    (hjob : f.jobs inner.height = some (inner.retrier policy phase)) (hidle : inner.idle f) :
    Forlorn f
  | stopped {f : Floor V ω} (hjob : f.jobs inner.height = some (inner.retrier policy .stopped))
    (hgone : inner.gone f) : Forlorn f

/-- A retrying task on top of what its inner flow rests on. -/
noncomputable def retrying : Footing V ω where
  dock := .link inner.height
  height := inner.height + 1
  answers := policy.answering inner.answers
  inTime loop := inner.inTime loop ∧ policy.InTime loop
  definite := inner.definite ∧ ∃ most, policy.GivesUpAfter most
  span := inner.toCome policy 0 + inner.span + 4
  idle f := f.channels inner.height = some (.opened [] [] buffer) ∧
    f.jobs inner.height = some (inner.retrier policy .next) ∧ inner.idle f
  busy s := Served inner policy buffer s
  gone f := (∃ channel, f.channels inner.height = some channel ∧ channel.Exhausted) ∧
    Forlorn inner policy f

variable {inner policy buffer} {service : TimedService V ω} (hfirm : inner.Firm service)
include hfirm

theorem Served.beyond {s : Submission V} {w : ω} {f f' : Floor V ω} {need : Need} {rank : ℕ}
    (hbeyond : f.Beyond (inner.height + 1) f')
    (hserved : Served inner policy buffer s w f need rank) :
    Served inner policy buffer s w f' need rank := by
  have hbelow := hbeyond.mono (Nat.le_succ _)
  have hchannels := hbeyond.channels inner.height (Nat.lt_succ_self _)
  have hjobs := hbeyond.jobs inner.height (Nat.lt_succ_self _)
  cases hserved with
  | received hchannel hjob hidle =>
    rw [← hbeyond.service]
    exact .received (hchannels.trans hchannel) (hjobs.trans hjob) (hfirm.idle_beyond hbelow hidle)
  | pursued hchannel hpursuit =>
    exact .pursued (hchannels.trans hchannel) (hpursuit.beyond hfirm hbeyond)
  | returned answer hchannel hjob hidle hanswer =>
    exact .returned answer (hchannels.trans hchannel) (hjobs.trans hjob)
      (hfirm.idle_beyond hbelow hidle) (hbeyond.service ▸ hanswer)

/-- While the inner flow has nothing to do, a phase of one of its tasks comes to nothing. -/
theorem Served.advance_idle {s : Submission V} {w : ω} {loop : EventLoop V ω} {id : ℕ} {job : Job V}
    {need : Need} {rank : ℕ} {definite : Prop} (hid : id < inner.height)
    (hidle : inner.idle (loop.floor.setJob id job))
    (hserved : Served inner policy buffer s w (loop.floor.setJob id job) need rank)
    (hneed : ∀ tick, need ≠ some (id, tick)) :
    Advances service (inner.height + 1) definite (Asking service s) (Served inner policy buffer s w)
      id job loop need rank := by
  obtain ⟨loop', hadvance, hfloor⟩ := hfirm.idle_advance hid hidle
  exact .wait hadvance hfloor hserved fun hhelped ↦
    let ⟨⟨tick, hmet, _⟩, _⟩ := hhelped
    hneed tick hmet

/-- A phase of a task below the retrying one. -/
theorem Served.advance_inner {s : Submission V} {w : ω} {loop : EventLoop V ω} {id : ℕ}
    {job : Job V} {need : Need} {rank : ℕ} (hid : id < inner.height)
    (htime : inner.inTime (job.advance service id loop).2)
    (hserved : Served inner policy buffer s w (loop.floor.setJob id job) need rank) :
    Advances service (inner.height + 1) inner.definite (Asking service s)
      (Served inner policy buffer s w) id job loop need rank := by
  have hserved' := hserved
  cases hserved with
  | received hchannel hjob hidle =>
    refine hserved'.advance_idle hfirm hid hidle ?_
    rintro tick ⟨⟩
    exact hid.false
  | pursued hchannel hpursuit =>
    refine (hpursuit.advance_inner hfirm hid htime).imp (Nat.le_succ _) (fun h ↦ h)
      fun hnear hpursuit' ↦ ?_
    exact .pursued ((hnear.channels _ le_rfl).trans hchannel) hpursuit'
  | returned answer hchannel hjob hidle hanswer =>
    refine hserved'.advance_idle hfirm hid hidle ?_
    rintro tick ⟨⟩

/-- A phase of the retrying task. -/
theorem Served.advance {s : Submission V} {w : ω} {loop : EventLoop V ω} {job : Job V} {need : Need}
    {rank : ℕ} (hbuffer : 0 < buffer)
    (htime : policy.InTime (job.advance service inner.height loop).2)
    (hserved : Served inner policy buffer s w (loop.floor.setJob inner.height job) need rank) :
    Advances service (inner.height + 1) (∃ most, policy.GivesUpAfter most) (Asking service s)
      (Served inner policy buffer s w) inner.height job loop need rank := by
  have hwait : ∀ {loop' : EventLoop V ω}, job.advance service inner.height loop =
        ((.waiting, job), loop') → loop'.floor = loop.floor →
      ¬ (need.MetBy inner.height loop.clock ∧ 0 < loop.allowance) →
      Advances service (inner.height + 1) (∃ most, policy.GivesUpAfter most) (Asking service s)
        (Served inner policy buffer s w) inner.height job loop need rank :=
    fun hadvance hfloor ↦ .wait hadvance hfloor hserved
  have hkept : ∀ {channel : Channel V} {job' : Job V},
      inner.idle (loop.floor.setJob inner.height job) →
      inner.idle ((loop.floor.setChannel inner.height channel).setJob inner.height job') :=
    fun hidle ↦ hfirm.idle_beyond (((Floor.beyond_setJob le_rfl _ _).symm.trans
      (Floor.beyond_setChannel le_rfl _ _)).trans (Floor.beyond_setJob le_rfl _ _)) hidle
  cases hserved with
  | received hchannel hjob hidle =>
    obtain rfl : job = inner.retrier policy .next := by simpa using hjob
    rcases EventLoop.desk_next_cons (.task inner.height) hchannel with
      ⟨loop', hnext, hfloor, hstalled⟩ | ⟨loop', hnext, hfloor⟩
    · exact hwait (by simp [retrier, Job.advance, Retry.advance, hnext]) hfloor (by simp [hstalled])
    · have hservice : loop'.service = loop.service := congrArg Floor.service hfloor
      have htime' : policy.InTime loop' := by
        simpa [retrier, Job.advance, Retry.advance, hnext] using htime
      obtain ⟨deadline, hdeadline, hbegin⟩ := Retry.exists_begin htime'.deadline s
      have hdispatching : Served inner policy buffer s loop.service
          ((loop.floor.setChannel inner.height (.opened [] [] buffer)).setJob inner.height
            (inner.retrier policy (.trying ⟨s, 0, deadline⟩ (.dispatch s)))) _ _ :=
        .pursued (Floor.setChannel_channels_self ..) (.dispatching 0 deadline .unattempted hdeadline
          (Floor.setJob_jobs_self ..) (hkept hidle))
      refine .again ?_ (hfloor ▸ Floor.near_setChannel (Nat.lt_succ_self _) _ _)
        (hservice ▸ .refl) (hfloor ▸ hdispatching) fun _ ↦ by omega
      have hnow : (EventLoop.desk (.task inner.height) inner.height).now loop' = loop'.now := rfl
      simp [retrier, Job.advance, Retry.advance, hnext, hnow, hbegin]
  | pursued hchannel hpursuit =>
    by_cases hrank : 1 < rank
    · refine (hpursuit.advance hfirm htime hrank).imp (Nat.le_succ _) (fun h ↦ h)
        fun hnear hpursuit' ↦ ?_
      exact .pursued ((hnear.channels _ le_rfl).trans hchannel) hpursuit'
    · cases hpursuit with
      | returning answer hanswer hjob hidle =>
        obtain rfl : job = inner.retrier policy (.replying s.ticket ⟨s.ticket, answer⟩) := by
          simpa using hjob
        rcases EventLoop.desk_reply_opened (.task inner.height) hbuffer hchannel
          ⟨s.ticket, answer⟩ with ⟨loop', hreply, hfloor, hstalled⟩ | ⟨loop', hreply, hfloor⟩
        · exact hwait (by simp [retrier, Job.advance, Retry.advance, hreply]) hfloor
            (by simp [hstalled])
        · have hservice : loop'.service = loop.service := congrArg Floor.service hfloor
          have hreturned : Served inner policy buffer s w ((loop.floor.setChannel inner.height
              (.opened [] [⟨s.ticket, answer⟩] buffer)).setJob inner.height
                (inner.retrier policy .next)) none 0 :=
            .returned answer (Floor.setChannel_channels_self ..) (Floor.setJob_jobs_self ..)
              (hkept hidle) hanswer
          exact .again (by simp [retrier, Job.advance, Retry.advance, hreply])
            (hfloor ▸ Floor.near_setChannel (Nat.lt_succ_self _) _ _) (hservice ▸ .refl)
            (hfloor ▸ hreturned) fun _ ↦ Nat.one_pos
      | dispatching => omega
      | awaiting => omega
      | sleeping => omega
  | returned answer hchannel hjob hidle hanswer =>
    obtain rfl : job = inner.retrier policy .next := by simpa using hjob
    obtain ⟨loop', hnext, hfloor⟩ := EventLoop.desk_next_nil (.task inner.height) hchannel
    exact hwait (by simp [retrier, Job.advance, Retry.advance, hnext]) hfloor (by simp)

theorem kept_served (hbuffer : 0 < buffer) (s : Submission V) (w : ω) :
    Affair.Kept service (inner.height + 1)
      (fun loop ↦ inner.inTime loop ∧ policy.InTime loop)
      (inner.definite ∧ ∃ most, policy.GivesUpAfter most) (Asking service s)
      (Served inner policy buffer s w) where
  beyond := Served.beyond hfirm
  needed := by
    intro f id tick rank hserved
    obtain ⟨need, hneed⟩ : ∃ need, need = some (id, tick) := ⟨_, rfl⟩
    rw [← hneed] at hserved
    cases hserved with
    | received hchannel hjob hidle =>
      cases hneed
      exact ⟨Nat.lt_succ_self _, by simp [hjob]⟩
    | pursued hchannel hpursuit => exact hpursuit.needed hfirm hneed
    | returned answer hchannel hjob hidle hanswer => cases hneed
  advance := by
    intro loop id job need rank hid htime hserved
    rcases Nat.lt_succ_iff_lt_or_eq.mp hid with hid | rfl
    · exact (Served.advance_inner hfirm hid htime.1 hserved).imp le_rfl And.left fun _ h ↦ h
    · exact (Served.advance hfirm hbuffer htime.2 hserved).imp le_rfl And.right fun _ h ↦ h

/-- A task that has stopped lets go of its inner flow, which has been closed. -/
theorem gone_release {loop : EventLoop V ω} {channel : Channel V}
    (hchannel : loop.floor.channels inner.height = some channel) (hexhausted : channel.Exhausted)
    (hgone : inner.gone loop.floor) :
    ∃ loop', Job.release (inner.retrier policy .stopped) loop = loop' ∧
      loop.floor.Near (inner.height + 1) loop'.floor ∧ loop'.service = loop.service ∧
      (retrying inner policy buffer).gone
        (loop'.floor.setJob inner.height (inner.retrier policy .stopped)) := by
  obtain ⟨below, hdrop, hnear, hservice, hgone'⟩ := hfirm.drop hgone
  have hchannel' := (hnear.channels _ le_rfl).trans hchannel
  have hfloor := EventLoop.dropWorker_floor hchannel'
  refine ⟨_, by rw [retrier, Job.release, hdrop], ?_,
    (congrArg Floor.service hfloor).trans hservice,
    ⟨channel.dropWorker, ?_, rfl, hexhausted.2⟩, .stopped (Floor.setJob_jobs_self ..) ?_⟩
  · exact (hnear.mono (Nat.le_succ _)).trans
      (hfloor ▸ Floor.near_setChannel (Nat.lt_succ_self _) _ _)
  · rw [Floor.setJob_channels, hfloor]
    exact Floor.setChannel_channels_self ..
  · refine hfirm.gone_beyond ?_ hgone'
    exact hfloor ▸ (Floor.beyond_setChannel le_rfl _ _).trans (Floor.beyond_setJob le_rfl _ _)

theorem Forlorn.beyond {f f' : Floor V ω} (hbeyond : f.Beyond inner.height f')
    (hjobs : f'.jobs inner.height = f.jobs inner.height) (hforlorn : Forlorn inner policy f) :
    Forlorn inner policy f' := by
  cases hforlorn with
  | resting phase hphase hjob hidle =>
    exact .resting phase hphase (hjobs.trans hjob) (hfirm.idle_beyond hbeyond hidle)
  | stopped hjob hgone => exact .stopped (hjobs.trans hjob) (hfirm.gone_beyond hbeyond hgone)

/-- A phase of a task below the retrying one, once nothing will come any more. -/
theorem over_advance_inner {loop : EventLoop V ω} {id : ℕ} {job : Job V} {rank : ℕ}
    (hid : id < inner.height) (htime : inner.inTime (job.advance service id loop).2)
    (hgone : (retrying inner policy buffer).gone (loop.floor.setJob id job)) :
    Advances service (inner.height + 1) False (fun _ _ ↦ False)
      (retrying inner policy buffer).Over id job loop none rank := by
  have hne : inner.height ≠ id := Nat.ne_of_gt hid
  have hgone' := hgone
  obtain ⟨⟨channel, hchannel, hexhausted⟩, hforlorn⟩ := hgone
  cases hforlorn with
  | resting phase hphase hjob hidle =>
    obtain ⟨loop', hadvance, hfloor⟩ := hfirm.idle_advance hid hidle
    exact .wait hadvance hfloor ⟨hgone', rfl⟩ (by simp)
  | stopped hjob hgone =>
    have hover : inner.Over (loop.floor.setJob id job) none rank := ⟨hgone, rfl⟩
    refine (hfirm.ended.advance hid htime hover).imp (Nat.le_succ _) (fun h ↦ h) ?_
    rintro f job' need' rank' hnear ⟨hgone, hneed⟩
    rw [Floor.setJob_jobs_of_ne _ _ _ hne] at hjob
    refine ⟨⟨⟨channel, (hnear.channels _ le_rfl).trans hchannel, hexhausted⟩, .stopped ?_ hgone⟩,
      hneed⟩
    rw [Floor.setJob_jobs_of_ne _ _ _ hne, hnear.jobs, hjob]

/-- The retrying task stops, its inner flow having been closed. -/
theorem over_stop {loop loop' : EventLoop V ω} {channel : Channel V} {job : Job V} {rank : ℕ}
    (hchannel : loop.floor.channels inner.height = some channel) (hexhausted : channel.Exhausted)
    (hadvance : job.advance service inner.height loop =
      ((.stopped, inner.retrier policy .stopped), loop'))
    (hnear : loop.floor.Near inner.height loop'.floor) (hservice : loop'.service = loop.service)
    (hgone : inner.gone loop'.floor) :
    Advances service (inner.height + 1) False (fun _ _ ↦ False)
      (retrying inner policy buffer).Over inner.height job loop none rank := by
  obtain ⟨released, rfl, hnear', hservice', hgone'⟩ := gone_release hfirm
    ((hnear.channels _ le_rfl).trans hchannel) hexhausted hgone
  have hover : (retrying inner policy buffer).Over
      ((Job.release (inner.retrier policy .stopped) loop').floor.setJob inner.height
        (inner.retrier policy .stopped)) none 0 := ⟨hgone', rfl⟩
  exact .stop hadvance ((hnear.mono (Nat.le_succ _)).trans hnear')
    ((hservice'.trans hservice) ▸ .refl) hover False.elim

/-- A phase of the retrying task, once nothing will come any more: it closes its inner flow, asks
nothing and stops. -/
theorem over_advance {loop : EventLoop V ω} {job : Job V} {rank : ℕ}
    (hgone : (retrying inner policy buffer).gone (loop.floor.setJob inner.height job)) :
    Advances service (inner.height + 1) False (fun _ _ ↦ False)
      (retrying inner policy buffer).Over inner.height job loop none rank := by
  have hgone' := hgone
  obtain ⟨⟨channel, hchannel, hexhausted⟩, hforlorn⟩ := hgone
  rw [Floor.setJob_channels] at hchannel
  have hbelow := (Floor.beyond_setJob (le_refl inner.height) job loop.floor).symm
  cases hforlorn with
  | resting phase hphase hjob hidle =>
    obtain rfl : job = inner.retrier policy phase := by simpa using hjob
    rcases hphase with rfl | rfl
    · obtain ⟨loop', ⟨hnext, -⟩ | hnext, hfloor⟩ :=
        EventLoop.desk_next_exhausted (.task inner.height) hchannel hexhausted
      · exact .wait (by simp [retrier, Job.advance, Retry.advance, hnext]) hfloor ⟨hgone', rfl⟩
          (by simp)
      · have hclosing : (retrying inner policy buffer).Over
            (loop.floor.setJob inner.height (inner.retrier policy .closing)) none 0 :=
          ⟨⟨⟨channel, hchannel, hexhausted⟩, .resting .closing (Or.inr rfl)
            (Floor.setJob_jobs_self ..) (hfirm.idle_beyond
              (hbelow.trans (Floor.beyond_setJob le_rfl _ _)) hidle)⟩, rfl⟩
        have hservice : loop'.service = loop.service := congrArg Floor.service hfloor
        exact .again (by simp [retrier, Job.advance, Retry.advance, hnext]) (hfloor ▸ .refl ..)
          (hservice ▸ .refl) (hfloor ▸ hclosing) False.elim
    · obtain ⟨loop', hclose, hnear, hservice, hgone⟩ :=
        hfirm.close (.task inner.height) (hfirm.idle_beyond hbelow hidle)
      exact over_stop hfirm hchannel hexhausted
        (by simp [retrier, Job.advance, Retry.advance, EventLoop.flow, hclose]) hnear hservice hgone
  | stopped hjob hgone =>
    obtain rfl : job = inner.retrier policy .stopped := by simpa using hjob
    exact over_stop hfirm hchannel hexhausted (by simp [retrier, Job.advance, Retry.advance])
      (.refl ..) rfl (hfirm.gone_beyond hbelow hgone)

theorem over_retrying : (retrying inner policy buffer).Over.Kept service (inner.height + 1)
    (fun loop ↦ inner.inTime loop ∧ policy.InTime loop) False fun _ _ ↦ False where
  beyond := by
    rintro f f' need rank hbeyond ⟨⟨⟨channel, hchannel, hexhausted⟩, hforlorn⟩, hneed⟩
    exact ⟨⟨⟨channel, (hbeyond.channels _ (Nat.lt_succ_self _)).trans hchannel, hexhausted⟩,
      hforlorn.beyond hfirm (hbeyond.mono (Nat.le_succ _))
        (hbeyond.jobs inner.height (Nat.lt_succ_self _))⟩, hneed⟩
  needed := by
    rintro f id tick rank ⟨-, hneed⟩
    cases hneed
  advance := by
    rintro loop id job need rank hid htime ⟨hgone, rfl⟩
    rcases Nat.lt_succ_iff_lt_or_eq.mp hid with hid | rfl
    · exact over_advance_inner hfirm hid htime.1 hgone
    · exact over_advance hfirm hgone

theorem firm_retrying (hbuffer : 0 < buffer) : (retrying inner policy buffer).Firm service where
  inTime_of_before hbefore htime :=
    ⟨hfirm.inTime_of_before hbefore htime.1, htime.2.of_before hbefore⟩
  idle_beyond := by
    rintro f f' hbeyond ⟨hchannel, hjob, hidle⟩
    exact ⟨(hbeyond.channels _ (Nat.lt_succ_self _)).trans hchannel,
      (hbeyond.jobs _ (Nat.lt_succ_self _)).trans hjob,
      hfirm.idle_beyond (hbeyond.mono (Nat.le_succ _)) hidle⟩
  idle_advance := by
    rintro loop id job hid ⟨hchannel, hjob, hidle⟩
    rcases Nat.lt_succ_iff_lt_or_eq.mp hid with hid | rfl
    · exact hfirm.idle_advance hid hidle
    · obtain rfl : job = inner.retrier policy .next := by simpa using hjob
      obtain ⟨loop', hnext, hfloor⟩ := EventLoop.desk_next_nil (.task inner.height) hchannel
      exact ⟨loop', by simp [retrier, Job.advance, Retry.advance, hnext], hfloor⟩
  busy := kept_served hfirm hbuffer
  ended := over_retrying hfirm
  ready who loop hidle := EventLoop.pollReady_link hidle.1 who rfl
  dispatch := by
    rintro submission loop ⟨hchannel, hjob, hidle⟩
    obtain ⟨loop', hdispatch, hfloor, hallowance⟩ :=
      EventLoop.startDispatch_link hchannel service submission rfl rfl
    have hidle' := hfirm.idle_beyond
      (Floor.beyond_setChannel le_rfl (.opened [submission] [] buffer) loop.floor) hidle
    have hservice : loop'.service = loop.service := congrArg Floor.service hfloor
    have hreceived : Served inner policy buffer submission loop.service loop'.floor
        (some (inner.height, 0)) (inner.toCome policy 0 + inner.span + 4) := by
      rw [hfloor]
      exact Served.received (f := loop.floor.setChannel _ _) (Floor.setChannel_channels_self ..)
        hjob hidle'
    exact ⟨loop', _, _, hdispatch, hfloor ▸ Floor.near_setChannel (Nat.lt_succ_self _) _ _,
      hallowance, hservice ▸ .refl, hreceived, le_rfl⟩
  flush := fun _ _ ↦ rfl
  reply := by
    intro who loop s w need rank hserved
    cases hserved with
    | received hchannel hjob hidle => exact Or.inl (pollReply_needed who hchannel (by simp))
    | pursued hchannel hpursuit =>
      exact Or.inl (pollReply_needed who hchannel hpursuit.need_ne_none)
    | returned answer hchannel hjob hidle hanswer =>
      rcases EventLoop.pollReply_link hchannel who service rfl with
        ⟨loop', hreply, hfloor, hstalled⟩ | ⟨loop', hreply, hfloor⟩
      · exact Or.inl ⟨loop', hreply, hfloor, fun _ ↦ hstalled⟩
      · have hservice : loop'.service = loop.service := congrArg Floor.service hfloor
        refine Or.inr ⟨loop', answer, hreply,
          hfloor ▸ Floor.near_setChannel (Nat.lt_succ_self _) _ _, hservice, ⟨?_, ?_, ?_⟩,
          hservice ▸ hanswer⟩
        · rw [hfloor]
          exact Floor.setChannel_channels_self ..
        · rw [hfloor]
          exact hjob
        · rw [hfloor]
          exact hfirm.idle_beyond (Floor.beyond_setChannel le_rfl _ _) hidle
  close := by
    rintro who loop ⟨hchannel, hjob, hidle⟩
    obtain ⟨loop', hclose, hfloor⟩ := EventLoop.pollClose_link hchannel who
    refine ⟨loop', hclose, hfloor ▸ Floor.near_setChannel (Nat.lt_succ_self _) _ _,
      congrArg Floor.service hfloor, ⟨(Channel.opened [] [] buffer).closeSending, ?_, rfl, rfl⟩,
      .resting .next (Or.inl rfl) (hfloor ▸ hjob) ?_⟩
    · rw [hfloor]
      exact Floor.setChannel_channels_self ..
    · exact hfloor ▸ hfirm.idle_beyond (Floor.beyond_setChannel le_rfl _ _) hidle
  drop := by
    rintro loop ⟨⟨channel, hchannel, hexhausted⟩, hforlorn⟩
    have hfloor := EventLoop.drop_link hchannel
    have hbeyond := Floor.beyond_setChannel (le_refl inner.height)
      channel.dropCollecting.closeSending loop.floor
    refine ⟨_, rfl, hfloor ▸ Floor.near_setChannel (Nat.lt_succ_self _) _ _,
      congrArg Floor.service hfloor,
      ⟨channel.dropCollecting.closeSending, ?_, hexhausted.1, rfl⟩, ?_⟩
    · rw [retrying, hfloor]
      exact Floor.setChannel_channels_self ..
    · rw [retrying, hfloor]
      exact hforlorn.beyond hfirm hbeyond rfl

end Footing

/-! ### Executors -/

namespace Executor

/-- Every channel of a flow of the executor has room for a reply, and for no more than a channel can
keep. What a script does is up to its cues. -/
def Roomy : Executor → Prop
  | loopback => True
  | tasks _ buffer => 0 < buffer ∧ buffer ≤ Channel.mostRoom
  | retrying inner _ buffer => inner.Roomy ∧ 0 < buffer ∧ buffer ≤ Channel.mostRoom
  | script => False

/-- What the first flow of an executor on an event loop rests on, if the executor is roomy. -/
noncomputable def footing (service : TimedService V ω) : Executor → Footing V ω
  | loopback | script => .line service
  | tasks latency buffer => .tasks service latency buffer
  | retrying inner policy buffer => (inner.footing service).retrying policy buffer

theorem Roomy.firm {executor : Executor} (hroomy : executor.Roomy) (service : TimedService V ω) :
    (executor.footing service).Firm service := by
  induction executor with
  | loopback => exact Footing.firm_line service
  | tasks latency buffer => exact Footing.firm_tasks hroomy.1
  | retrying inner policy buffer ih => exact Footing.firm_retrying (ih hroomy.1) hroomy.2.1
  | script => exact hroomy.elim

/-- A link and its task are set up where the others end. -/
theorem spawn_eq {buffer : ℕ} (hroom : buffer ≤ Channel.mostRoom) (job : ℕ → Job V)
    (loop : EventLoop V ω) :
    ∃ loop', spawn buffer job loop = .ok (.link loop.links.size, loop') ∧
      loop'.floor = (loop.floor.setChannel loop.links.size (.opened [] [] buffer)).setJob
        loop.jobs.size (job loop.links.size) ∧
      loop'.links.size = loop.links.size + 1 ∧ loop'.jobs.size = loop.jobs.size + 1 := by
  obtain ⟨set, hset⟩ : ∃ set : EventLoop V ω, { loop with
      links := loop.links.push (.fresh buffer),
      jobs := loop.jobs.push (job loop.links.size) } = set :=
    ⟨_, rfl⟩
  refine ⟨set.wake (.task loop.jobs.size), ?_, ?_, ?_, ?_⟩
  · rw [← hset, spawn, EventLoop.openLink, Link.ofCapacity, if_neg (Nat.not_lt.mpr hroom)]
    rfl
  · rw [EventLoop.wake_floor, ← hset]
    simp only [EventLoop.floor, Floor.setJob, Floor.setChannel, Floor.mk.injEq, true_and]
    refine ⟨?_, ?_⟩
    · funext index
      by_cases hindex : index = loop.links.size
      · subst hindex
        simp [Link.fresh, Channel.fresh, Channel.opened]
      · rw [Function.update_of_ne hindex, Array.getElem?_push, if_neg hindex]
    · funext id
      by_cases hid : id = loop.jobs.size
      · subst hid
        simp
      · rw [Function.update_of_ne hid, Array.getElem?_push, if_neg hid]
  · rw [EventLoop.wake_links, ← hset, Array.size_push]
  · rw [EventLoop.wake_jobs, ← hset, Array.size_push]

/-- A flow of a roomy executor on a fresh event loop has nothing to do. -/
theorem Roomy.opens {executor : Executor} (hroomy : executor.Roomy) (service : TimedService V ω)
    (w : ω) (cues : Call → List Cue) :
    ∃ loop : EventLoop V ω, executor.openFlow (.start w cues) =
        .ok ((executor.footing service).dock, loop) ∧
      (executor.footing service).Holds .idle w (0, loop) ∧ loop.clock = 0 ∧
      loop.links.size = (executor.footing service).height ∧
      loop.jobs.size = (executor.footing service).height := by
  induction executor with
  | loopback =>
    exact ⟨{ EventLoop.start w cues with lines := #[.fresh] }, rfl, ⟨rfl, fun _ _ ↦ rfl, rfl⟩, rfl,
      rfl, rfl⟩
  | tasks latency buffer =>
    obtain ⟨loop, hspawn, hfloor, hlinks, hjobs⟩ :=
      spawn_eq hroomy.2 (.serve · latency .next) (EventLoop.start (V := V) w cues)
    refine ⟨loop, hspawn, ⟨⟨?_, ?_⟩, ?_, congrArg Floor.service hfloor⟩,
      congrArg Floor.clock hfloor, hlinks, hjobs⟩
    · rw [hfloor, Floor.setJob_channels]
      exact Floor.setChannel_channels_self ..
    · rw [hfloor]
      exact Floor.setJob_jobs_self ..
    · intro id hid
      have hne : id ≠ (EventLoop.start (V := V) w cues).jobs.size := Nat.ne_of_gt hid
      rw [hfloor, Floor.setJob_jobs_of_ne _ _ _ hne]
      rfl
  | retrying inner policy buffer ih =>
    obtain ⟨below, hopen, ⟨hidle, halone, hservice⟩, hclock, hlinks, hjobs⟩ := ih hroomy.1
    obtain ⟨loop, hspawn, hfloor, hlinks', hjobs'⟩ := spawn_eq hroomy.2.2
      (.retry · (inner.footing service).dock policy .next) below
    rw [hlinks, hjobs] at hfloor
    rw [hlinks] at hspawn hlinks'
    rw [hjobs] at hjobs'
    have hbeyond : below.floor.Beyond (inner.footing service).height loop.floor := hfloor ▸
      (Floor.beyond_setChannel le_rfl _ _).trans (Floor.beyond_setJob le_rfl _ _)
    refine ⟨loop, ?_, ⟨⟨?_, ?_, (hroomy.1.firm service).idle_beyond hbeyond hidle⟩, ?_, ?_⟩, ?_,
      hlinks', hjobs'⟩
    · rw [openFlow, hopen]
      exact hspawn
    · rw [hfloor, Floor.setJob_channels]
      exact Floor.setChannel_channels_self ..
    · rw [hfloor]
      exact Floor.setJob_jobs_self ..
    · intro id hid
      rw [hfloor, Floor.setJob_jobs_of_ne _ _ _ (Nat.ne_of_gt hid)]
      exact halone id (Nat.le_of_succ_le hid)
    · exact (congrArg Floor.service hfloor).trans hservice
    · exact (congrArg Floor.clock hfloor).trans hclock
  | script => exact hroomy.elim

end Executor

end Errand
