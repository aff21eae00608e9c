import Errand.Executor
import Errand.Proofs.EventLoop.Schedule

/-!
The footing of the flows that executors open, one below the other: a loopback line
(`Footing.firm_line`), a task that serves a link (`Footing.firm_tasks`), and a task that serves a
link by way of a flow with firm footing, retrying (`Footing.firm_retrying`).
-/

set_option autoImplicit false

namespace Errand

variable {V : ValueTypes} {ω : Type}

namespace Footing

variable (service : TimedService V ω)

/-! ### A line -/

/-- A loopback line answers as soon as a submission comes in. -/
def line : Footing V ω where
  dock := .line 0
  height := 0
  answers := Asked service
  inTime _ := True
  definite := True
  span := 0
  idle f := f.lines 0 = some .fresh
  busy s w f need rank := need = none ∧ rank = 0 ∧ ∃ answer,
    f.lines 0 = some ⟨[⟨s.ticket, answer⟩], false⟩ ∧ Asked service s w answer f.service
  gone _ := True

theorem lines_set {loop : EventLoop V ω} {index : ℕ} {line : Loopback.Line V}
    (hline : loop.lines[index]? = some line) (line' : Loopback.Line V) :
    (loop.lines.setIfInBounds index line')[index]? = some line' := by
  rw [Array.getElem?_setIfInBounds_self, if_pos (Array.getElem?_eq_some_iff.mp hline).1]

theorem firm_line : (line service).Firm service where
  inTime_of_before := fun _ _ ↦ trivial
  idle_beyond := by
    intro f f' hbeyond hidle
    exact (congrFun hbeyond.lines 0).trans hidle
  idle_advance := by
    intro loop id job hid
    cases hid
  busy s w :=
    { beyond := by
        rintro f f' need rank hbeyond ⟨hneed, hrank, answer, hline, hasked⟩
        exact ⟨hneed, hrank, answer, (congrFun hbeyond.lines 0).trans hline,
          hbeyond.service ▸ hasked⟩
      needed := by
        rintro f id tick rank ⟨hneed, -⟩
        cases hneed
      advance := by
        intro loop id job need rank hid
        cases hid }
  ended :=
    { beyond := fun _ hover ↦ hover
      needed := by
        rintro f id tick rank ⟨-, hneed⟩
        cases hneed
      advance := by
        intro loop id job need rank hid
        cases hid }
  ready := by
    intro who loop hidle
    have hline : loop.lines[0]? = some .fresh := hidle
    simp [line, EventLoop.pollReady, hline, Loopback.Line.ready, Loopback.Line.fresh,
      Except.mapError]
  dispatch := by
    intro submission loop hidle
    exact ⟨_, none, 0, EventLoop.startDispatch_line service hidle submission,
      ⟨rfl, rfl, fun _ _ ↦ rfl⟩, rfl, .single ⟨_, loop.clock, rfl⟩,
      ⟨rfl, rfl, _, lines_set hidle _, loop.clock, rfl⟩, le_rfl⟩
  flush := fun _ _ ↦ rfl
  reply := by
    rintro who loop s w need rank ⟨hneed, -, answer, hline, hasked⟩
    exact Or.inr ⟨_, answer, EventLoop.pollReply_line service who hline,
      ⟨rfl, rfl, fun _ _ ↦ rfl⟩, rfl, lines_set hline _, hasked⟩
  close := by
    intro who loop hidle
    exact ⟨_, rfl, ⟨rfl, rfl, fun _ _ ↦ rfl⟩, rfl, trivial⟩
  drop := fun _ ↦ ⟨_, rfl, .refl .., rfl, trivial⟩

/-! ### A task that serves a link -/

/-- How a task stands that serves a submission, `w` being the state of the service when it came. -/
inductive Handled (latency : Option Duration) (buffer : ℕ) (s : Submission V) :
    ω → Floor V ω → Need → ℕ → Prop where
  | queued {f : Floor V ω} (hchannel : f.channels 0 = some (.opened [s] [] buffer))
    (hjob : f.jobs 0 = some (.serve 0 latency .next)) :
    Handled latency buffer s f.service f (some (0, 0)) 3
  | handling {f : Floor V ω} (wakeUp : ℕ) (hchannel : f.channels 0 = some (.opened [] [] buffer))
    (hjob : f.jobs 0 = some (.serve 0 latency (.handling s wakeUp))) :
    Handled latency buffer s f.service f (some (0, EventLoop.tickOf wakeUp)) 2
  | replying {w : ω} {f : Floor V ω} (answer : Answer (Payload V))
    (hchannel : f.channels 0 = some (.opened [] [] buffer))
    (hjob : f.jobs 0 = some (.serve 0 latency (.replying ⟨s.ticket, answer⟩)))
    (hasked : Asked service s w answer f.service) : Handled latency buffer s w f (some (0, 0)) 1
  | replied {w : ω} {f : Floor V ω} (answer : Answer (Payload V))
    (hchannel : f.channels 0 = some (.opened [] [⟨s.ticket, answer⟩] buffer))
    (hjob : f.jobs 0 = some (.serve 0 latency .next))
    (hasked : Asked service s w answer f.service) : Handled latency buffer s w f none 0

/-- A task serves the submissions to its link one after the other. -/
def tasks (latency : Option Duration) (buffer : ℕ) : Footing V ω where
  dock := .link 0
  height := 1
  answers := Asked service
  inTime _ := True
  definite := True
  span := 3
  idle f := f.channels 0 = some (.opened [] [] buffer) ∧ f.jobs 0 = some (.serve 0 latency .next)
  busy s := Handled service latency buffer s
  gone f := ∃ channel phase, f.channels 0 = some channel ∧ channel.Exhausted ∧
    f.jobs 0 = some (.serve 0 latency phase) ∧ (phase = .next ∨ phase = .stopped)

/-- Asking the service takes it from one state to the next, and nothing else shows. -/
theorem handle_eq (who : Party) (index : ℕ) (submission : Submission V) (loop : EventLoop V ω) :
    ∃ answer loop',
      Worker.handle (EventLoop.desk who index) (EventLoop.ask service) submission loop =
        ((.again, .replying ⟨submission.ticket, answer⟩), loop') ∧
      Asked service submission loop.service answer loop'.service ∧
      loop'.floor = { loop.floor with service := loop'.service } := by
  rcases hasked : service loop.clock submission loop.service with ⟨outcome, w'⟩
  have hask : EventLoop.ask service submission loop = (outcome, { loop with service := w' }) := by
    simp [EventLoop.ask, hasked]
  have hanswer : Asked service submission loop.service (submission.settle outcome).answer w' :=
    ⟨loop.clock, by simp [Service.answerer, hasked]⟩
  cases outcome with
  | ok response =>
    exact ⟨_, { loop with service := w' }, by rw [Worker.handle, hask]; rfl, hanswer, rfl⟩
  | error cause =>
    exact ⟨_, EventLoop.log (.failed submission.ticket cause) { loop with service := w' },
      by rw [Worker.handle, hask]; rfl, hanswer, rfl⟩

variable {service} {latency : Option Duration} {buffer : ℕ}

theorem Handled.beyond {s : Submission V} {w : ω} {f f' : Floor V ω} {need : Need} {rank : ℕ}
    (hbeyond : f.Beyond 1 f') (hhandled : Handled service latency buffer s w f need rank) :
    Handled service latency buffer s w f' need rank := by
  have hchannels := hbeyond.channels 0 Nat.one_pos
  have hjobs := hbeyond.jobs 0 Nat.one_pos
  cases hhandled with
  | queued hchannel hjob =>
    rw [← hbeyond.service]
    exact .queued (hchannels.trans hchannel) (hjobs.trans hjob)
  | handling _ hchannel hjob =>
    rw [← hbeyond.service]
    exact .handling _ (hchannels.trans hchannel) (hjobs.trans hjob)
  | replying _ hchannel hjob hasked =>
    exact .replying _ (hchannels.trans hchannel) (hjobs.trans hjob) (hbeyond.service ▸ hasked)
  | replied _ hchannel hjob hasked =>
    exact .replied _ (hchannels.trans hchannel) (hjobs.trans hjob) (hbeyond.service ▸ hasked)

/-- While a task is needed that has sent no reply, its client has to wait. -/
theorem pollReply_needed (who : Party) {index : ℕ} {submissions : List (Submission V)}
    {loop : EventLoop V ω} {need : Need}
    (hchannel : loop.floor.channels index = some (.opened submissions [] buffer))
    (hneed : need ≠ none) :
    ∃ loop', EventLoop.pollReply service who (.link index) loop = (.pending, loop') ∧
      loop'.floor = loop.floor ∧ (need = none → loop.allowance = 0) := by
  obtain ⟨loop', hreply, hfloor⟩ :=
    EventLoop.pollReply_link_pending hchannel who service rfl rfl
  exact ⟨loop', hreply, hfloor, fun h ↦ absurd h hneed⟩

/-- Once the service has been asked, the reply is on its way. -/
theorem Handled.of_handle (submission : Submission V) {loop : EventLoop V ω}
    (hchannel : loop.floor.channels 0 = some (.opened [] [] buffer)) :
    ∃ phase loop',
      Worker.handle (EventLoop.desk (.task 0) 0) (EventLoop.ask service) submission loop =
        ((.again, phase), loop') ∧ loop.floor.Near 1 loop'.floor ∧
      Relation.ReflTransGen (Asking service submission) loop.service loop'.service ∧
      Handled service latency buffer submission loop.service
        (loop'.floor.setJob 0 (.serve 0 latency phase)) (some (0, 0)) 1 := by
  obtain ⟨answer, loop', hhandle, hasked, hfloor⟩ :=
    handle_eq service (.task 0) 0 submission loop
  refine ⟨_, loop', hhandle, ?_, .single ⟨answer, hasked⟩,
    .replying answer ?_ (Floor.setJob_jobs_self ..) hasked⟩
  · rw [hfloor]
    exact ⟨rfl, rfl, fun _ _ ↦ rfl⟩
  · rw [hfloor]
    exact hchannel

/-- A phase of the task brings the submission further, unless it has to wait. -/
theorem Handled.advance {s : Submission V} {w : ω} {loop : EventLoop V ω} {job : Job V}
    {need : Need} {rank : ℕ} (hbuffer : 0 < buffer)
    (hhandled : Handled service latency buffer s w (loop.floor.setJob 0 job) need rank) :
    Advances service 1 True (Asking service s) (Handled service latency buffer s w) 0 job loop need
      rank := by
  have hwait : ∀ {loop' : EventLoop V ω}, job.advance service 0 loop = ((.waiting, job), loop') →
      loop'.floor = loop.floor → ¬ (need.MetBy 0 loop.clock ∧ 0 < loop.allowance) →
      Advances service 1 True (Asking service s) (Handled service latency buffer s w) 0 job loop
        need rank :=
    fun hadvance hfloor ↦ .wait hadvance hfloor hhandled
  cases hhandled with
  | queued hchannel hjob =>
    obtain rfl : job = .serve 0 latency .next := by simpa using hjob
    rcases EventLoop.desk_next_cons (.task 0) hchannel with
      ⟨loop', hnext, hfloor, hstalled⟩ | ⟨loop', hnext, hfloor⟩
    · exact hwait (by simp [Job.advance, Worker.advance, hnext]) hfloor (by simp [hstalled])
    · obtain ⟨logged, hlogged, hlogged_floor⟩ : ∃ logged,
          (EventLoop.desk (.task 0) 0).log (.serving s.ticket s.route) loop' = logged ∧
            logged.floor = loop.floor.setChannel 0 (.opened [] [] buffer) := ⟨_, rfl, hfloor⟩
      have hchannel' : logged.floor.channels 0 = some (.opened [] [] buffer) := by
        rw [hlogged_floor, Floor.setChannel_channels_self]
      have hnear : loop.floor.Near 1 logged.floor :=
        hlogged_floor ▸ Floor.near_setChannel Nat.one_pos _ _
      have hservice : logged.service = loop.service := congrArg Floor.service hlogged_floor
      rw [Floor.setJob_service]
      cases latency with
      | none =>
        obtain ⟨phase, handled, hhandle, hnear', hasks, hreplying⟩ :=
          Handled.of_handle s hchannel'
        rw [hservice] at hreplying hasks
        exact .again (by simp [Job.advance, Worker.advance, hnext, hlogged, hhandle])
          (hnear.trans hnear') hasks hreplying fun _ ↦ by omega
      | some latency =>
        have hhandling : ∀ wakeUp, Handled service (some latency) buffer s loop.service
            (logged.floor.setJob 0 (.serve 0 (some latency) (.handling s wakeUp)))
            (some (0, EventLoop.tickOf wakeUp)) 2 := fun wakeUp ↦
          hservice ▸ .handling (f := logged.floor.setJob 0 _) wakeUp hchannel'
            (Floor.setJob_jobs_self ..)
        obtain ⟨wakeUp, hadvance⟩ : ∃ wakeUp,
            Job.advance service 0 (.serve 0 (some latency) .next) loop =
              ((.again, .serve 0 (some latency) (.handling s wakeUp)), logged) :=
          ⟨_, by simp only [Job.advance, Worker.advance, hnext, hlogged]; rfl⟩
        exact .again hadvance hnear (hservice ▸ .refl) (hhandling wakeUp) fun _ ↦ by omega
  | handling wakeUp hchannel hjob =>
    obtain rfl : job = .serve 0 latency (.handling s wakeUp) := by simpa using hjob
    rcases EventLoop.desk_sleepUntil (.task 0) 0 wakeUp loop with
      ⟨loop', hsleep, hfloor, hstalled⟩ | ⟨loop', hsleep, hfloor⟩
    · refine hwait (by simp [Job.advance, Worker.advance, hsleep]) hfloor ?_
      rintro ⟨⟨tick, ⟨⟩, htick⟩, hstep⟩
      omega
    · obtain ⟨phase, handled, hhandle, hnear, hasks, hreplying⟩ :=
        Handled.of_handle s (hfloor ▸ hchannel)
      have hservice : loop'.service = loop.service := congrArg Floor.service hfloor
      rw [hservice] at hreplying hasks
      exact .again (by simp [Job.advance, Worker.advance, hsleep, hhandle]) (hfloor ▸ hnear) hasks
        hreplying fun _ ↦ by omega
  | replying answer hchannel hjob hasked =>
    obtain rfl : job = .serve 0 latency (.replying ⟨s.ticket, answer⟩) := by simpa using hjob
    rcases EventLoop.desk_reply_opened (.task 0) hbuffer hchannel ⟨s.ticket, answer⟩ with
      ⟨loop', hreply, hfloor, hstalled⟩ | ⟨loop', hreply, hfloor⟩
    · exact hwait (by simp [Job.advance, Worker.advance, hreply]) hfloor (by simp [hstalled])
    · have hservice : loop'.service = loop.service := congrArg Floor.service hfloor
      refine .again (by simp [Job.advance, Worker.advance, hreply])
        (hfloor ▸ Floor.near_setChannel Nat.one_pos _ _) (hservice ▸ .refl)
        (.replied answer ?_ (Floor.setJob_jobs_self ..) ?_) fun _ ↦ Nat.one_pos
      · rw [hfloor, Floor.setJob_channels]
        exact Floor.setChannel_channels_self ..
      · rw [hfloor]
        exact hasked
  | replied _ hchannel hjob hasked =>
    obtain rfl : job = .serve 0 latency .next := by simpa using hjob
    obtain ⟨loop', hnext, hfloor⟩ := EventLoop.desk_next_nil (.task 0) hchannel
    exact hwait (by simp [Job.advance, Worker.advance, hnext]) hfloor (by simp)

theorem kept_handled (hbuffer : 0 < buffer) (s : Submission V) (w : ω) :
    Affair.Kept service 1 (fun _ ↦ True) True (Asking service s)
      (Handled service latency buffer s w) where
  beyond := Handled.beyond
  needed := by
    intro f id tick rank hhandled
    cases hhandled with
    | queued hchannel hjob => exact ⟨Nat.one_pos, by simp [hjob]⟩
    | handling _ hchannel hjob => exact ⟨Nat.one_pos, by simp [hjob]⟩
    | replying _ hchannel hjob hasked => exact ⟨Nat.one_pos, by simp [hjob]⟩
  advance := by
    intro loop id job need rank hid _ hhandled
    obtain rfl : id = 0 := Nat.lt_one_iff.mp hid
    exact hhandled.advance hbuffer

/-- Once nothing will come any more, the task asks nothing, and stops. -/
theorem over_tasks : (tasks service latency buffer).Over.Kept service 1 (fun _ ↦ True) False
    fun _ _ ↦ False where
  beyond := by
    rintro f f' need rank hbeyond ⟨⟨channel, phase, hchannel, hexhausted, hjob, hphase⟩, hneed⟩
    exact ⟨⟨channel, phase, (hbeyond.channels 0 Nat.one_pos).trans hchannel, hexhausted,
      (hbeyond.jobs 0 Nat.one_pos).trans hjob, hphase⟩, hneed⟩
  needed := by
    rintro f id tick rank ⟨-, hneed⟩
    cases hneed
  advance := by
    rintro loop id job need rank hid - ⟨⟨channel, phase, hchannel, hexhausted, hjob, hphase⟩, rfl⟩
    obtain rfl : id = 0 := Nat.lt_one_iff.mp hid
    obtain rfl : job = .serve 0 latency phase := by simpa using hjob
    have hstop : ∀ {loop' : EventLoop V ω}, Job.advance service 0 (.serve 0 latency phase) loop =
          ((.stopped, .serve 0 latency .stopped), loop') → loop'.floor = loop.floor →
        Advances service 1 False (fun _ _ ↦ False) (tasks service latency buffer).Over 0
          (.serve 0 latency phase) loop none rank := by
      intro loop' hadvance hfloor
      have hreleased : (loop'.dropWorker 0).floor =
          loop.floor.setChannel 0 channel.dropWorker := by
        rw [EventLoop.dropWorker_floor (hfloor ▸ hchannel), hfloor]
      have hservice : (loop'.dropWorker 0).service = loop.service :=
        congrArg Floor.service hreleased
      have hdropped : ((loop'.dropWorker 0).floor.setJob 0 (.serve 0 latency .stopped)).channels 0 =
          some channel.dropWorker := by
        rw [Floor.setJob_channels, hreleased]
        exact Floor.setChannel_channels_self ..
      have hover : (tasks service latency buffer).Over
          ((loop'.dropWorker 0).floor.setJob 0 (.serve 0 latency .stopped)) none 0 :=
        ⟨⟨channel.dropWorker, .stopped, hdropped, ⟨rfl, hexhausted.2⟩, Floor.setJob_jobs_self ..,
          Or.inr rfl⟩, rfl⟩
      exact .stop hadvance (hreleased ▸ Floor.near_setChannel Nat.one_pos _ _) (hservice ▸ .refl)
        hover False.elim
    rcases hphase with rfl | rfl
    · obtain ⟨loop', ⟨hnext, hstalled⟩ | hnext, hfloor⟩ :=
        EventLoop.desk_next_exhausted (.task 0) hchannel hexhausted
      · exact .wait (by simp [Job.advance, Worker.advance, hnext]) hfloor
          ⟨⟨channel, .next, hchannel, hexhausted, hjob, Or.inl rfl⟩, rfl⟩ (by simp [hstalled])
      · exact hstop (by simp [Job.advance, Worker.advance, hnext]) hfloor
    · exact hstop (by simp [Job.advance, Worker.advance]) rfl

theorem firm_tasks (hbuffer : 0 < buffer) : (tasks service latency buffer).Firm service where
  inTime_of_before := fun _ _ ↦ trivial
  idle_beyond := by
    rintro f f' hbeyond ⟨hchannel, hjob⟩
    exact ⟨(hbeyond.channels 0 Nat.one_pos).trans hchannel, (hbeyond.jobs 0 Nat.one_pos).trans hjob⟩
  idle_advance := by
    rintro loop id job hid ⟨hchannel, hjob⟩
    obtain rfl : id = 0 := Nat.lt_one_iff.mp hid
    obtain rfl : job = .serve 0 latency .next := by simpa using hjob
    obtain ⟨loop', hnext, hfloor⟩ := EventLoop.desk_next_nil (.task 0) hchannel
    exact ⟨loop', by simp [Job.advance, Worker.advance, hnext], hfloor⟩
  busy := kept_handled hbuffer
  ended := over_tasks
  ready who loop hidle := EventLoop.pollReady_link hidle.1 who rfl
  dispatch := by
    rintro submission loop ⟨hchannel, hjob⟩
    obtain ⟨loop', hdispatch, hfloor, hallowance⟩ :=
      EventLoop.startDispatch_link hchannel service submission rfl rfl
    have hservice : loop'.service = loop.service := congrArg Floor.service hfloor
    refine ⟨loop', some (0, 0), 3, hdispatch, hfloor ▸ Floor.near_setChannel Nat.one_pos _ _,
      hallowance, hservice ▸ .refl, ?_, le_rfl⟩
    rw [← hservice]
    refine Handled.queued (f := loop'.floor) ?_ ?_
    · rw [hfloor]
      exact Floor.setChannel_channels_self ..
    · rw [hfloor]
      exact hjob
  flush := fun _ _ ↦ rfl
  reply := by
    intro who loop s w need rank hhandled
    cases hhandled with
    | queued hchannel hjob => exact Or.inl (pollReply_needed who hchannel (by simp))
    | handling _ hchannel hjob => exact Or.inl (pollReply_needed who hchannel (by simp))
    | replying _ hchannel hjob hasked => exact Or.inl (pollReply_needed who hchannel (by simp))
    | replied answer hchannel hjob hasked =>
      rcases EventLoop.pollReply_link hchannel who service rfl with
        ⟨loop', hreply, hfloor, hstalled⟩ | ⟨loop', hreply, hfloor⟩
      · exact Or.inl ⟨loop', hreply, hfloor, fun _ ↦ hstalled⟩
      · have hservice : loop'.service = loop.service := congrArg Floor.service hfloor
        refine Or.inr ⟨loop', answer, hreply, hfloor ▸ Floor.near_setChannel Nat.one_pos _ _,
          hservice, ⟨?_, ?_⟩, hservice ▸ hasked⟩
        · rw [hfloor]
          exact Floor.setChannel_channels_self ..
        · rw [hfloor]
          exact hjob
  close := by
    rintro who loop ⟨hchannel, hjob⟩
    obtain ⟨loop', hclose, hfloor⟩ := EventLoop.pollClose_link hchannel who
    refine ⟨loop', hclose, hfloor ▸ Floor.near_setChannel Nat.one_pos _ _,
      congrArg Floor.service hfloor, (Channel.opened [] [] buffer).closeSending, .next, ?_,
      ⟨rfl, rfl⟩, hfloor ▸ hjob, Or.inl rfl⟩
    rw [hfloor]
    exact Floor.setChannel_channels_self ..
  drop := by
    rintro loop ⟨channel, phase, hchannel, hexhausted, hjob, hphase⟩
    have hfloor := EventLoop.drop_link hchannel
    refine ⟨_, rfl, hfloor ▸ Floor.near_setChannel Nat.one_pos _ _, congrArg Floor.service hfloor,
      channel.dropCollecting.closeSending, phase, ?_, ⟨hexhausted.1, rfl⟩, hfloor ▸ hjob, hphase⟩
    rw [tasks, hfloor]
    exact Floor.setChannel_channels_self ..

end Footing

end Errand
