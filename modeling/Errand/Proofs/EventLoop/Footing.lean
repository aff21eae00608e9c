import Errand.Proofs.EventLoop.Onward
import Errand.Proofs.Flow.Faithful

/-!
What a flow of an event loop rests on. A `Footing` says how the flow at a dock stands while it has
nothing to do and while it serves a submission, in terms of the floor alone; it is `Firm` if the
calls of the client and the phases of the tasks below keep it so. Then turns keep it so as well,
in whatever order and of whatever length they are given (`Affair.Kept.runFor`).

How far a submission has come is counted down. It never comes less far, and a turn of the task that
it needs, late enough, brings it further (`Progress`).
-/

set_option autoImplicit false

namespace Errand

variable {V : ValueTypes} {ω : Type}

/-- The task whose turn brings a submission further, and the millisecond from which on it does;
`none` says that the client may collect the reply. -/
abbrev Need := Option (ℕ × ℕ)

/-- The task is the one needed, and its time has come. -/
def Need.MetBy (need : Need) (id clock : ℕ) : Prop := ∃ tick, need = some (id, tick) ∧ tick ≤ clock

@[simp]
theorem Need.not_metBy_none (id clock : ℕ) : ¬ Need.MetBy none id clock := by
  rintro ⟨tick, hneed, -⟩
  cases hneed

/-- A submission has come further, as it must if it was helped, or is where it was. -/
structure Progress (helped : Prop) (need need' : Need) (rank rank' : ℕ) : Prop where
  kept : rank' < rank ∨ rank' = rank ∧ need' = need
  eased : helped → rank' < rank

theorem Progress.of_lt {helped : Prop} {need need' : Need} {rank rank' : ℕ} (hlt : rank' < rank) :
    Progress helped need need' rank rank' :=
  ⟨Or.inl hlt, fun _ ↦ hlt⟩

theorem Progress.still {helped : Prop} {need : Need} {rank : ℕ} (hhelped : ¬ helped) :
    Progress helped need need rank rank :=
  ⟨Or.inr ⟨rfl, rfl⟩, fun h ↦ absurd h hhelped⟩

theorem Progress.trans {helped helped' : Prop} {need need' need'' : Need} {rank rank' rank'' : ℕ}
    (hfirst : Progress helped need need' rank rank')
    (hlast : Progress helped' need' need'' rank' rank'') :
    Progress helped need need'' rank rank'' := by
  refine ⟨?_, fun hhelped ↦ ?_⟩
  · rcases hfirst.kept with hlt | ⟨rfl, rfl⟩
    · rcases hlast.kept with hlt' | ⟨rfl, -⟩
      · exact Or.inl (hlt'.trans hlt)
      · exact Or.inl hlt
    · exact hlast.kept
  · have hlt := hfirst.eased hhelped
    rcases hlast.kept with hlt' | ⟨rfl, -⟩
    · exact hlt'.trans hlt
    · exact hlt

/-- Where a phase leaves the event loop: a task that stops lets go of what it holds. -/
def Move.leave (move : Move) (job : Job V) (loop : EventLoop V ω) : EventLoop V ω :=
  match move with
  | .stopped => job.release loop
  | .again | .waiting => loop

/-- Something that goes on: how the floor is meanwhile, which task is needed for it, and how far it
has come. -/
abbrev Affair (V : ValueTypes) (ω : Type) := Floor V ω → Need → ℕ → Prop

/-- What a phase of a task comes to while something goes on below `height`: it still goes on, has
come further if it needed the task, and the service has gone through steps such as these. -/
def Advances (service : TimedService V ω) (height : ℕ) (definite : Prop) (step : ω → ω → Prop)
    (affair : Affair V ω) (id : ℕ) (job : Job V) (loop : EventLoop V ω) (need : Need) (rank : ℕ) :
    Prop :=
  ∃ move job' loop' need' rank', job.advance service id loop = ((move, job'), loop') ∧
    loop.floor.Near height (move.leave job' loop').floor ∧
    Relation.ReflTransGen step loop.service (move.leave job' loop').service ∧
    affair ((move.leave job' loop').floor.setJob id job') need' rank' ∧
    (definite → Progress (need.MetBy id loop.clock ∧ 0 < loop.allowance) need need' rank rank')

namespace Advances

variable {service : TimedService V ω} {height id : ℕ} {definite : Prop} {step : ω → ω → Prop}
  {affair : Affair V ω} {job job' : Job V} {loop loop' : EventLoop V ω} {need need' : Need}
  {rank rank' : ℕ}

/-- The task has to wait, and nothing has changed. -/
theorem wait (hadvance : job.advance service id loop = ((.waiting, job), loop'))
    (hfloor : loop'.floor = loop.floor) (haffair : affair (loop.floor.setJob id job) need rank)
    (hhelped : ¬ (need.MetBy id loop.clock ∧ 0 < loop.allowance)) :
    Advances service height definite step affair id job loop need rank := by
  have hservice : loop'.service = loop.service := congrArg Floor.service hfloor
  exact ⟨_, _, loop', need, rank, hadvance, hfloor ▸ .refl .., hservice ▸ .refl, hfloor ▸ haffair,
    fun _ ↦ .still hhelped⟩

/-- The task goes on with another phase. -/
theorem again (hadvance : job.advance service id loop = ((.again, job'), loop'))
    (hnear : loop.floor.Near height loop'.floor)
    (hsteps : Relation.ReflTransGen step loop.service loop'.service)
    (haffair : affair (loop'.floor.setJob id job') need' rank') (hlt : definite → rank' < rank) :
    Advances service height definite step affair id job loop need rank :=
  ⟨_, _, loop', need', rank', hadvance, hnear, hsteps, haffair, fun h ↦ .of_lt (hlt h)⟩

/-- The task stops, and lets go of what it holds. -/
theorem stop (hadvance : job.advance service id loop = ((.stopped, job'), loop'))
    (hnear : loop.floor.Near height (job'.release loop').floor)
    (hsteps : Relation.ReflTransGen step loop.service (job'.release loop').service)
    (haffair : affair ((job'.release loop').floor.setJob id job') need' rank')
    (hlt : definite → rank' < rank) :
    Advances service height definite step affair id job loop need rank :=
  ⟨_, _, loop', need', rank', hadvance, hnear, hsteps, haffair, fun h ↦ .of_lt (hlt h)⟩

theorem imp {height' : ℕ} {definite' : Prop} {affair' : Affair V ω}
    (hadvances : Advances service height definite step affair id job loop need rank)
    (hheight : height ≤ height') (hdefinite : definite' → definite)
    (haffair : ∀ {f : Floor V ω} {job need rank}, loop.floor.Near height f →
      affair (f.setJob id job) need rank → affair' (f.setJob id job) need rank) :
    Advances service height' definite' step affair' id job loop need rank := by
  obtain ⟨move, job', loop', need', rank', hadvance, hnear, hsteps, haffair', hprogress⟩ :=
    hadvances
  exact ⟨move, job', loop', need', rank', hadvance, hnear.mono hheight, hsteps,
    haffair hnear haffair', fun h ↦ hprogress (hdefinite h)⟩

end Advances

/-- Something goes on whatever phases the tasks below `height` go through, as long as the event loop
is in time after them. -/
structure Affair.Kept (service : TimedService V ω) (height : ℕ) (inTime : EventLoop V ω → Prop)
    (definite : Prop) (step : ω → ω → Prop) (affair : Affair V ω) : Prop where
  beyond : ∀ {f f' need rank}, f.Beyond height f' → affair f need rank → affair f' need rank
  /-- Only a task below `height` can be needed. -/
  needed : ∀ {f id tick rank}, affair f (some (id, tick)) rank → id < height ∧ f.jobs id ≠ none
  advance : ∀ {loop : EventLoop V ω} {id job need rank}, id < height →
    inTime (job.advance service id loop).2 → affair (loop.floor.setJob id job) need rank →
      Advances service height definite step affair id job loop need rank

namespace Floor

/-- There are no tasks from `height` on. -/
def TasksBelow (height : ℕ) (f : Floor V ω) : Prop := ∀ id, height ≤ id → f.jobs id = none

theorem TasksBelow.lt {height : ℕ} {f : Floor V ω} {id : ℕ} {job : Job V}
    (hbelow : f.TasksBelow height) (hjob : f.jobs id = some job) : id < height := by
  by_contra hid
  rw [hbelow id (by omega)] at hjob
  cases hjob

theorem TasksBelow.near {height height' : ℕ} {f f' : Floor V ω} (hbelow : f.TasksBelow height)
    (hnear : f.Near height' f') : f'.TasksBelow height := by
  intro id hid
  rw [hnear.jobs]
  exact hbelow id hid

end Floor

/-- What has become of something that goes on: it still does, the service has gone through steps
such as these, and it has come further if it was helped. -/
structure Affair.After (affair : Affair V ω) (height : ℕ) (definite : Prop) (step : ω → ω → Prop)
    (helped : Prop) (need : Need) (rank : ℕ) (f f' : Floor V ω) : Prop where
  below : f'.TasksBelow height
  steps : Relation.ReflTransGen step f.service f'.service
  goesOn : ∃ need' rank', affair f' need' rank' ∧ (definite → Progress helped need need' rank rank')

namespace Affair.Kept

variable {service : TimedService V ω} {height : ℕ} {inTime : EventLoop V ω → Prop}
  {definite : Prop} {step : ω → ω → Prop} {affair : Affair V ω}
  (hkept : affair.Kept service height inTime definite step)
  (hearlier : ∀ {loop loop'}, loop.Before loop' → inTime loop' → inTime loop) {need : Need}
  {rank : ℕ}
include hkept hearlier

/-- A turn of a task. -/
theorem turn {loop : EventLoop V ω} {id : ℕ} {job : Job V} (hid : id < height) {phases : ℕ}
    (htime : inTime (job.turn service id phases loop).2)
    (haffair : affair (loop.floor.setJob id job) need rank) :
    ∃ job' loop' need' rank', job.turn service id phases loop = (job', loop') ∧
      loop.floor.Near height loop'.floor ∧
      Relation.ReflTransGen step loop.service loop'.service ∧
      affair (loop'.floor.setJob id job') need' rank' ∧
      (definite → Progress (need.MetBy id loop.clock ∧ 0 < loop.allowance ∧ 0 < phases) need need'
        rank rank') := by
  induction phases generalizing loop job need rank with
  | zero =>
    have hfloor := loop.wake_floor (.task id)
    have hservice : (loop.wake (.task id)).service = loop.service := congrArg Floor.service hfloor
    exact ⟨job, loop.wake (.task id), need, rank, rfl, hfloor ▸ .refl .., hservice ▸ .refl,
      hfloor.symm ▸ haffair, fun _ ↦ .still (by simp)⟩
  | succ phases ih =>
    obtain ⟨move, job', loop', need', rank', hadvance, hnear, hsteps, haffair', hprogress⟩ :=
      hkept.advance hid (hearlier (job.before_rest service id phases loop) htime) haffair
    have hhelped : definite → Progress
        (need.MetBy id loop.clock ∧ 0 < loop.allowance ∧ 0 < phases + 1) need need' rank rank' :=
      fun hdefinite ↦ ⟨(hprogress hdefinite).kept,
        fun hhelped ↦ (hprogress hdefinite).eased ⟨hhelped.1, hhelped.2.1⟩⟩
    cases move with
    | stopped =>
      exact ⟨job', job'.release loop', need', rank', by simp [Job.turn, hadvance], hnear, hsteps,
        haffair', hhelped⟩
    | waiting =>
      exact ⟨job', loop', need', rank', by simp [Job.turn, hadvance], hnear, hsteps, haffair',
        hhelped⟩
    | again =>
      have htime' : inTime (job'.turn service id phases loop').2 := by
        simpa only [Job.turn, hadvance] using htime
      obtain ⟨job'', loop'', need'', rank'', hturn, hnear', hsteps', haffair'', hprogress'⟩ :=
        ih htime' haffair'
      exact ⟨job'', loop'', need'', rank'', by simp [Job.turn, hadvance, hturn],
        hnear.trans hnear', hsteps.trans hsteps', haffair'', fun hdefinite ↦
          (hhelped hdefinite).trans (hprogress' hdefinite)⟩

/-- A turn of a task, as the event loop gives it. -/
theorem runFor {loop : EventLoop V ω} {phases id : ℕ}
    (htime : inTime (loop.runFor service phases id)) (haffair : affair loop.floor need rank)
    (hbelow : loop.floor.TasksBelow height) :
    affair.After height definite step (need.MetBy id loop.clock ∧ 0 < phases) need rank loop.floor
      (loop.runFor service phases id).floor := by
  rcases hjob : loop.jobs[id]? with _ | job
  · have hsame : loop.runFor service phases id = loop := by rw [EventLoop.runFor, hjob]
    rw [hsame]
    refine ⟨hbelow, .refl, need, rank, haffair, fun _ ↦ .still ?_⟩
    rintro ⟨⟨tick, rfl, -⟩, -⟩
    exact (hkept.needed haffair).2 hjob
  · have hid := hbelow.lt hjob
    have hset : loop.floor.setJob id job = loop.floor := Floor.setJob_self hjob
    have htime' := hearlier (EventLoop.before_settled service phases id hjob) htime
    obtain ⟨begun, hbegun⟩ : ∃ begun : EventLoop V ω, begun =
        { loop with running := some id, rerun := false, allowance := stepsPerTurn } := ⟨_, rfl⟩
    have hbegun_floor : begun.floor = loop.floor := by
      rw [hbegun]
      rfl
    have hclock : begun.clock = loop.clock := congrArg Floor.clock hbegun_floor
    have hservice : begun.service = loop.service := congrArg Floor.service hbegun_floor
    have hallowance : 0 < begun.allowance := by
      rw [hbegun]
      exact Nat.zero_lt_succ 127
    rw [← hset, ← hbegun_floor] at haffair
    rw [← hbegun] at htime'
    obtain ⟨job', loop', need', rank', hturn, hnear, hsteps, haffair', hprogress⟩ :=
      hkept.turn hearlier hid htime' haffair
    rw [hbegun] at hturn
    rw [hbegun_floor] at hnear
    rw [hservice] at hsteps
    rw [EventLoop.runFor_floor hjob hturn hnear.jobs]
    refine ⟨?_, hsteps, need', rank', haffair', fun hdefinite ↦ ?_⟩
    · intro other hother
      rw [Floor.setJob_jobs_of_ne _ _ _ (by omega), hnear.jobs]
      exact hbelow other hother
    · refine ⟨(hprogress hdefinite).kept, fun hhelped ↦ (hprogress hdefinite).eased ?_⟩
      exact ⟨hclock.symm ▸ hhelped.1, hallowance, hhelped.2⟩

end Affair.Kept

/-- How the flow at a dock rests on the tasks below some height. -/
structure Footing (V : ValueTypes) (ω : Type) where
  dock : Dock
  /-- Tasks and links from here on are none of its concern. -/
  height : ℕ
  answers : Answering V ω
  /-- Whether its tasks can still tell every instant that they have had to wait for. -/
  inTime : EventLoop V ω → Prop
  /-- Whether no submission is served for ever. -/
  definite : Prop
  /-- The most that a submission which has just come in has before it. -/
  span : ℕ
  idle : Floor V ω → Prop
  /-- The submission is being served, `w` being the state of the service when it came. -/
  busy : Submission V → ω → Affair V ω
  /-- The client has gone, and nothing is left to be done. -/
  gone : Floor V ω → Prop

/-- The service answers the submission at some time. -/
def Asked (service : TimedService V ω) : Answering V ω := fun submission w answer w' ↦
  ∃ tick, (service tick).answerer submission w = (answer, w')

/-- The service is asked about the submission. -/
def Asking (service : TimedService V ω) (submission : Submission V) (w w' : ω) : Prop :=
  ∃ answer, Asked service submission w answer w'

namespace Footing

/-- Nothing is left to be done, as an affair. -/
def Over (footing : Footing V ω) : Affair V ω := fun f need _ ↦ footing.gone f ∧ need = none

/-- What the calls of its client and the phases of its tasks do to a flow. -/
structure Firm (service : TimedService V ω) (footing : Footing V ω) : Prop where
  inTime_of_before : ∀ {loop loop'}, loop.Before loop' → footing.inTime loop' →
    footing.inTime loop
  idle_beyond : ∀ {f f'}, f.Beyond footing.height f' → footing.idle f → footing.idle f'
  idle_advance : ∀ {loop : EventLoop V ω} {id job}, id < footing.height →
    footing.idle (loop.floor.setJob id job) →
      ∃ loop', job.advance service id loop = ((.waiting, job), loop') ∧ loop'.floor = loop.floor
  busy : ∀ s w, (footing.busy s w).Kept service footing.height footing.inTime footing.definite
    (Asking service s)
  ended : footing.Over.Kept service footing.height footing.inTime False fun _ _ ↦ False
  ready : ∀ who {loop : EventLoop V ω}, footing.idle loop.floor →
    EventLoop.pollReady who footing.dock loop = (.ready (.ok ()), loop)
  dispatch : ∀ submission {loop : EventLoop V ω}, footing.idle loop.floor →
    ∃ loop' need rank,
      EventLoop.startDispatch service footing.dock submission loop = (.ok (), loop') ∧
      loop.floor.Near footing.height loop'.floor ∧ loop'.allowance = loop.allowance ∧
      Relation.ReflTransGen (Asking service submission) loop.service loop'.service ∧
      footing.busy submission loop.service loop'.floor need rank ∧ rank ≤ footing.span
  flush : ∀ who (loop : EventLoop V ω),
    EventLoop.pollFlush who footing.dock loop = (.ready (.ok ()), loop)
  reply : ∀ who {loop : EventLoop V ω} {s w need rank}, footing.busy s w loop.floor need rank →
    (∃ loop', EventLoop.pollReply service who footing.dock loop = (.pending, loop') ∧
        loop'.floor = loop.floor ∧ (need = none → loop.allowance = 0)) ∨
      ∃ loop' answer,
        EventLoop.pollReply service who footing.dock loop =
          (.ready (.ok ⟨s.ticket, answer⟩), loop') ∧
        loop.floor.Near footing.height loop'.floor ∧ loop'.service = loop.service ∧
        footing.idle loop'.floor ∧ footing.answers s w answer loop'.service
  close : ∀ who {loop : EventLoop V ω}, footing.idle loop.floor →
    ∃ loop', EventLoop.pollClose who footing.dock loop = (.ready (.ok ()), loop') ∧
      loop.floor.Near footing.height loop'.floor ∧ loop'.service = loop.service ∧
      footing.gone loop'.floor
  drop : ∀ {loop : EventLoop V ω}, footing.gone loop.floor →
    ∃ loop', (loop.dropCollecting footing.dock).dropSending footing.dock = loop' ∧
      loop.floor.Near footing.height loop'.floor ∧ loop'.service = loop.service ∧
      footing.gone loop'.floor

namespace Firm

variable {service : TimedService V ω} {footing : Footing V ω} (hfirm : footing.Firm service)
include hfirm

theorem gone_beyond {f f' : Floor V ω} (hbeyond : f.Beyond footing.height f')
    (hgone : footing.gone f) : footing.gone f' :=
  have hover : footing.Over f' none 0 := hfirm.ended.beyond hbeyond ⟨hgone, rfl⟩
  hover.1

/-- A turn of a task that has nothing to do comes to nothing. -/
theorem idle_turn {loop : EventLoop V ω} {id : ℕ} {job : Job V} (hid : id < footing.height)
    (hidle : footing.idle (loop.floor.setJob id job)) (phases : ℕ) :
    ∃ loop', job.turn service id phases loop = (job, loop') ∧ loop'.floor = loop.floor := by
  cases phases with
  | zero => exact ⟨_, rfl, loop.wake_floor _⟩
  | succ phases =>
    obtain ⟨loop', hadvance, hfloor⟩ := hfirm.idle_advance hid hidle
    exact ⟨loop', by simp [Job.turn, hadvance], hfloor⟩

/-- Turns do nothing while there is nothing to do. -/
theorem idle_runFor {loop : EventLoop V ω} (hidle : footing.idle loop.floor)
    (hbelow : loop.floor.TasksBelow footing.height) (phases id : ℕ) :
    (loop.runFor service phases id).floor = loop.floor := by
  rcases hjob : loop.jobs[id]? with _ | job
  · rw [EventLoop.runFor, hjob]
  · have hset : loop.floor.setJob id job = loop.floor := Floor.setJob_self hjob
    obtain ⟨loop', hturn, hfloor⟩ : ∃ loop', job.turn service id phases
        { loop with running := some id, rerun := false, allowance := stepsPerTurn } =
          (job, loop') ∧ loop'.floor = loop.floor :=
      hfirm.idle_turn (hbelow.lt hjob) (hset.symm ▸ hidle) phases
    rw [EventLoop.runFor_floor hjob hturn (congrArg Floor.jobs hfloor), hfloor, hset]

end Firm

end Footing

end Errand
