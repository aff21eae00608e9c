import Errand.Proofs.EventLoop.Footing

/-!
Schedules: what goes on in an event loop between the calls of its caller. Any task may get a turn at
any time, woken or not, and of any length; timers may go off as late as they like; the caller may
have as many steps at a call as it likes. What the event loop does of itself is among it
(`EventLoop.exists_turnOver_eq`). A `Fair` schedule neglects no task for ever, lets time pass, and
gives the caller steps.

A flow with firm footing is faithful under every schedule for as long as its tasks can tell the
instants they have had to wait for (`Footing.Firm.faithful`), and no call on it is pending for ever
under a fair one (`Footing.Firm.lively`).
-/

set_option autoImplicit false

namespace Errand

variable {V : ValueTypes} {ω ε : Type}

/-! ### What goes on between calls -/

/-- Something that goes on in an event loop while its caller does nothing. -/
inductive Act where
  /-- A task gets a turn of so many phases at most. -/
  | turn (id phases : ℕ)
  /-- The clock moves on to a millisecond, and timers go off. -/
  | passTo (tick : ℕ)
  | wakeDeferred

namespace EventLoop

def perform (service : TimedService V ω) : Act → EventLoop V ω → EventLoop V ω
  | .turn id phases, loop => runFor service phases id { loop with ready := loop.ready.erase id }
  | .passTo tick, loop => loop.passTo tick
  | .wakeDeferred, loop => loop.wakeDeferred

def performAll (service : TimedService V ω) (acts : List Act) (loop : EventLoop V ω) :
    EventLoop V ω :=
  acts.foldl (fun loop act ↦ loop.perform service act) loop

theorem before_perform (service : TimedService V ω) (act : Act) (loop : EventLoop V ω) :
    loop.Before (loop.perform service act) := by
  cases act with
  | turn id phases =>
    have hreadied : loop.Before { loop with ready := loop.ready.erase id } := .of_eq rfl rfl
    exact hreadied.trans (before_runFor service phases id _)
  | passTo tick =>
    have hpassed : loop.Before { loop with
        clock := max loop.clock tick
        timers := (loop.timers.partition fun timer ↦ decide (timer.tick ≤ tick)).2 } :=
      ⟨le_max_left _ _, fun _ hevent ↦ hevent⟩
    exact hpassed.trans (before_wakeAll _ _)
  | wakeDeferred =>
    have hemptied : loop.Before { loop with deferred := [] } := .of_eq rfl rfl
    exact hemptied.trans (before_wakeAll _ _)

theorem before_performAll (service : TimedService V ω) (acts : List Act)
    (loop : EventLoop V ω) : loop.Before (loop.performAll service acts) := by
  induction acts generalizing loop with
  | nil => exact .refl loop
  | cons act acts ih => exact (loop.before_perform service act).trans (ih _)

/-- Once the clock has passed on, it is no earlier. -/
theorem le_clock_performAll (service : TimedService V ω) {acts : List Act} {tick : ℕ}
    (htick : .passTo tick ∈ acts) (loop : EventLoop V ω) :
    tick ≤ (loop.performAll service acts).clock := by
  induction acts generalizing loop with
  | nil => cases htick
  | cons act acts ih =>
    rcases List.mem_cons.mp htick with rfl | htick
    · have hclock : (loop.passTo tick).clock = max loop.clock tick :=
        congrArg Floor.clock (loop.passTo_floor tick)
      exact (hclock ▸ le_max_right _ _ : tick ≤ (loop.passTo tick).clock).trans
        (before_performAll service acts _).clock
    · exact ih htick _

theorem performAll_append (service : TimedService V ω) (acts acts' : List Act)
    (loop : EventLoop V ω) :
    loop.performAll service (acts ++ acts') =
      (loop.performAll service acts).performAll service acts' :=
  List.foldl_append

theorem exists_runReady_eq (service : TimedService V ω) (turns : ℕ) (loop : EventLoop V ω) :
    ∃ acts, (loop.runReady service turns).2 = loop.performAll service acts := by
  induction turns generalizing loop with
  | zero => exact ⟨[], rfl⟩
  | succ turns ih =>
    rcases hready : loop.ready with _ | ⟨id, rest⟩
    · exact ⟨[], by simp [runReady, hready, performAll]⟩
    · obtain ⟨acts, hacts⟩ := ih (run service id { loop with ready := rest })
      refine ⟨.turn id share :: acts, ?_⟩
      simp only [runReady, hready, performAll, List.foldl_cons, perform, List.erase_cons_head]
      exact hacts

/-- What an event loop does of itself in a round is turns of tasks, and then those put off may go on
or the clock passes on. -/
theorem exists_turnOver_eq (service : TimedService V ω) (loop : EventLoop V ω) :
    ∃ acts, loop.turnOver service = loop.performAll service acts := by
  obtain ⟨acts, hacts⟩ := exists_runReady_eq service round loop
  rcases hready : loop.runReady service round with ⟨_ | _, loop'⟩ <;> rw [hready] at hacts <;>
    simp only at hacts <;> subst hacts <;> simp only [turnOver, hready]
  · exact ⟨acts ++ [.wakeDeferred], by rw [performAll_append]; rfl⟩
  · split_ifs
    · exact ⟨acts ++ [.wakeDeferred], by rw [performAll_append]; rfl⟩
    · rcases hnext : (loop.performAll service acts).nextTick? with _ | tick
      · exact ⟨acts, by rw [jump, hnext]⟩
      · refine ⟨acts ++ [.passTo tick], ?_⟩
        rw [jump, hnext, performAll_append]
        rfl

end EventLoop

/-- What goes on before each call of the caller, and how many steps the caller has left at it. -/
structure Schedule where
  acts : ℕ → List Act
  allowance : ℕ → ℕ

namespace Schedule

/-- No task is neglected for ever, time passes, and the caller has steps left again and again. -/
structure Fair (schedule : Schedule) : Prop where
  turn : ∀ id k, ∃ m, k ≤ m ∧ ∃ phases, .turn id (phases + 1) ∈ schedule.acts m
  time : ∀ tick k, ∃ m, k ≤ m ∧ ∃ later, tick ≤ later ∧ .passTo later ∈ schedule.acts m
  steps : ∀ k, ∃ m, k ≤ m ∧ 0 < schedule.allowance m

/-- Before the `k`-th call the clock passes to the `k`-th millisecond, and each of the first `k`
tasks gets a turn. -/
def steady : Schedule where
  acts k := .passTo k :: (List.range k).map (.turn · 4)
  allowance _ := stepsPerTurn

theorem steady_fair : steady.Fair where
  turn id k := ⟨max k (id + 1), le_max_left _ _, 3, by simp [steady]⟩
  time tick k := ⟨max k tick, le_max_left _ _, max k tick, le_max_right _ _, by simp [steady]⟩
  steps k := ⟨k, le_rfl, Nat.zero_lt_succ 127⟩

/-- What the event loop has come to at the `k`-th call. -/
def before (schedule : Schedule) (service : TimedService V ω) (k : ℕ) (loop : EventLoop V ω) :
    EventLoop V ω :=
  { loop.performAll service (schedule.acts k) with
    callerReady := false, allowance := schedule.allowance k }

theorem acts_before_call (schedule : Schedule) (service : TimedService V ω) (k : ℕ)
    (loop : EventLoop V ω) :
    (loop.performAll service (schedule.acts k)).Before (schedule.before service k loop) :=
  .of_eq rfl rfl

theorem before_call (schedule : Schedule) (service : TimedService V ω) (k : ℕ)
    (loop : EventLoop V ω) : loop.Before (schedule.before service k loop) :=
  (loop.before_performAll service _).trans (schedule.acts_before_call service k loop)

end Schedule

/-- A flow of an event loop under a schedule. Its state counts the calls. -/
def Flow.amid (flow : Flow V (EventLoop V ω) ε) (service : TimedService V ω)
    (schedule : Schedule) : Flow V (ℕ × EventLoop V ω) ε where
  pollReady := fun (k, loop) ↦
    let (answer, loop) := flow.pollReady (schedule.before service k loop)
    (answer, k + 1, loop)
  startDispatch submission := fun (k, loop) ↦
    let (answer, loop) := flow.startDispatch submission (schedule.before service k loop)
    (answer, k + 1, loop)
  pollFlush := fun (k, loop) ↦
    let (answer, loop) := flow.pollFlush (schedule.before service k loop)
    (answer, k + 1, loop)
  pollClose := fun (k, loop) ↦
    let (answer, loop) := flow.pollClose (schedule.before service k loop)
    (answer, k + 1, loop)
  pollReply := fun (k, loop) ↦
    let (answer, loop) := flow.pollReply (schedule.before service k loop)
    (answer, k + 1, loop)

/-! ### Firm footing under a schedule -/

namespace Affair

variable {service : TimedService V ω} {height : ℕ} {inTime : EventLoop V ω → Prop}
  {definite : Prop} {step : ω → ω → Prop} {affair : Affair V ω} {need : Need} {rank : ℕ}
  {loop : EventLoop V ω}

/-- Nothing but the time has changed. -/
theorem After.clock {helped : Prop} {f : Floor V ω} (hbelow : f.TasksBelow height) {clock : ℕ}
    (haffair : affair { f with clock } need rank) (hhelped : ¬ helped) :
    affair.After height definite step helped need rank f { f with clock } :=
  ⟨hbelow, .refl, need, rank, haffair, fun _ ↦ .still hhelped⟩

namespace Kept

variable (hkept : affair.Kept service height inTime definite step)
  (hearlier : ∀ {loop loop'}, loop.Before loop' → inTime loop' → inTime loop)
include hkept hearlier

theorem perform (haffair : affair loop.floor need rank) (hbelow : loop.floor.TasksBelow height)
    (act : Act) (htime : inTime (loop.perform service act)) :
    affair.After height definite step
      (∃ id phases, act = .turn id (phases + 1) ∧ need.MetBy id loop.clock) need rank loop.floor
      (loop.perform service act).floor := by
  cases act with
  | turn id phases =>
    obtain ⟨readied, hreadied⟩ : ∃ readied : EventLoop V ω,
        readied = { loop with ready := loop.ready.erase id } := ⟨_, rfl⟩
    have hsame : readied.floor = loop.floor := by
      rw [hreadied]
      rfl
    have hclock : readied.clock = loop.clock := congrArg Floor.clock hsame
    rw [← hsame] at haffair hbelow ⊢
    rw [← hclock]
    rw [EventLoop.perform, ← hreadied] at htime ⊢
    obtain ⟨hbelow', hsteps, need', rank', haffair', hprogress⟩ :=
      hkept.runFor hearlier htime haffair hbelow
    refine ⟨hbelow', hsteps, need', rank', haffair', fun hdefinite ↦
      ⟨(hprogress hdefinite).kept, ?_⟩⟩
    rintro ⟨_, phases, ⟨⟩, hmet⟩
    exact (hprogress hdefinite).eased ⟨hmet, Nat.succ_pos phases⟩
  | passTo tick =>
    have hfloor : (loop.perform service (.passTo tick)).floor =
        { loop.floor with clock := max loop.clock tick } := loop.passTo_floor tick
    rw [hfloor]
    exact .clock hbelow (hkept.beyond (Floor.beyond_clock _ _ _) haffair) (by simp)
  | wakeDeferred =>
    have hfloor : (loop.perform service .wakeDeferred).floor = loop.floor :=
      loop.wakeDeferred_floor
    rw [hfloor]
    exact .clock hbelow haffair (by simp)

/-- What goes on between two calls keeps an affair going on. A turn of the task needed, late enough,
brings it further. -/
theorem performAll (haffair : affair loop.floor need rank) (hbelow : loop.floor.TasksBelow height)
    (acts : List Act) (htime : inTime (loop.performAll service acts)) :
    affair.After height definite step
      (∃ id phases, .turn id (phases + 1) ∈ acts ∧ need.MetBy id loop.clock) need rank loop.floor
      (loop.performAll service acts).floor := by
  induction acts generalizing loop need rank with
  | nil => exact .clock hbelow haffair (by simp)
  | cons act acts ih =>
    have hclock := (loop.before_perform service act).clock
    have htime' : inTime (loop.perform service act) :=
      hearlier (EventLoop.before_performAll service acts _) htime
    obtain ⟨hbelow', hsteps, need', rank', haffair', hprogress⟩ :=
      hkept.perform hearlier haffair hbelow act htime'
    obtain ⟨hbelow'', hsteps', need'', rank'', haffair'', hprogress'⟩ := ih haffair' hbelow' htime
    refine ⟨hbelow'', hsteps.trans hsteps', need'', rank'', haffair'', fun hdefinite ↦ ?_⟩
    have hfirst := hprogress hdefinite
    have hlast := hprogress' hdefinite
    refine ⟨(hfirst.trans hlast).kept, ?_⟩
    rintro ⟨id, phases, hturn, tick, rfl, htick⟩
    rcases List.mem_cons.mp hturn with rfl | hturn
    · exact (hfirst.trans hlast).eased ⟨id, phases, rfl, tick, rfl, htick⟩
    · rcases hfirst.kept with hlt | ⟨rfl, rfl⟩
      · rcases hlast.kept with hlt' | ⟨rfl, -⟩
        · exact hlt'.trans hlt
        · exact hlt
      · exact hlast.eased ⟨id, phases, hturn, tick, rfl, htick.trans hclock⟩

end Kept

end Affair

namespace Footing

namespace Firm

variable {service : TimedService V ω} {footing : Footing V ω} (hfirm : footing.Firm service)
  {loop : EventLoop V ω}
include hfirm

theorem idle_perform (hidle : footing.idle loop.floor)
    (hbelow : loop.floor.TasksBelow footing.height) (act : Act) :
    footing.idle (loop.perform service act).floor ∧
      (loop.perform service act).floor.TasksBelow footing.height ∧
      (loop.perform service act).service = loop.service := by
  cases act with
  | turn id phases =>
    obtain ⟨readied, hreadied⟩ : ∃ readied : EventLoop V ω,
        readied = { loop with ready := loop.ready.erase id } := ⟨_, rfl⟩
    have hsame : readied.floor = loop.floor := by
      rw [hreadied]
      rfl
    rw [← hsame] at hidle hbelow
    have hfloor : (loop.perform service (.turn id phases)).floor = loop.floor := by
      rw [EventLoop.perform, ← hreadied, hfirm.idle_runFor hidle hbelow phases id, hsame]
    rw [hfloor, ← hsame]
    exact ⟨hidle, hbelow, congrArg Floor.service hfloor⟩
  | passTo tick =>
    have hfloor : (loop.perform service (.passTo tick)).floor =
        { loop.floor with clock := max loop.clock tick } := loop.passTo_floor tick
    rw [hfloor]
    exact ⟨hfirm.idle_beyond (Floor.beyond_clock _ _ _) hidle, hbelow,
      congrArg Floor.service hfloor⟩
  | wakeDeferred =>
    have hfloor : (loop.perform service .wakeDeferred).floor = loop.floor :=
      loop.wakeDeferred_floor
    rw [hfloor]
    exact ⟨hidle, hbelow, congrArg Floor.service hfloor⟩

theorem idle_performAll (hidle : footing.idle loop.floor)
    (hbelow : loop.floor.TasksBelow footing.height) (acts : List Act) :
    footing.idle (loop.performAll service acts).floor ∧
      (loop.performAll service acts).floor.TasksBelow footing.height ∧
      (loop.performAll service acts).service = loop.service := by
  induction acts generalizing loop with
  | nil => exact ⟨hidle, hbelow, rfl⟩
  | cons act acts ih =>
    obtain ⟨hidle', hbelow', hservice⟩ := hfirm.idle_perform hidle hbelow act
    obtain ⟨hidle'', hbelow'', hservice'⟩ := ih hidle' hbelow'
    exact ⟨hidle'', hbelow'', hservice'.trans hservice⟩

end Firm

/-- How a flow under a schedule stands when it is charged so. -/
def Holds (footing : Footing V ω) : Charge V → ω → ℕ × EventLoop V ω → Prop
  | .idle, w, (_, loop) =>
    footing.idle loop.floor ∧ loop.floor.TasksBelow footing.height ∧ loop.service = w
  | .serving submission, w, (_, loop) =>
    loop.floor.TasksBelow footing.height ∧
      ∃ need rank, footing.busy submission w loop.floor need rank
  | .closed, w, (_, loop) =>
    footing.gone loop.floor ∧ loop.floor.TasksBelow footing.height ∧ loop.service = w

/-- It has become too late to tell some instant that had to be waited for. -/
def Late (footing : Footing V ω) : ℕ × EventLoop V ω → Prop :=
  fun (_, loop) ↦ ¬ footing.inTime loop

/-- The flow at the dock of a footing, as the caller has it under a schedule. -/
def flow (footing : Footing V ω) (service : TimedService V ω) (schedule : Schedule) :
    Flow V (ℕ × EventLoop V ω) FlowError :=
  (EventLoop.flow service .caller footing.dock).amid service schedule

namespace Firm

variable {service : TimedService V ω} {footing : Footing V ω} (hfirm : footing.Firm service)
  (schedule : Schedule) {s : Submission V} {w : ω} {k : ℕ} {loop : EventLoop V ω}
include hfirm

/-- It only becomes later. -/
theorem late_preserved : (footing.flow service schedule).Preserves footing.Late := by
  have hflow loop := EventLoop.before_flow loop service .caller footing.dock
  have hlater : ∀ {k loop loop'}, (schedule.before service k loop).Before loop' →
      footing.Late (k, loop) → footing.Late (k + 1, loop') := fun hbefore hlate htime ↦
    hlate (hfirm.inTime_of_before ((schedule.before_call service _ _).trans hbefore) htime)
  constructor
  · exact fun (k, loop) ↦ hlater ((hflow _).ready _ (.refl _))
  · exact fun submission (k, loop) ↦ hlater ((hflow _).dispatch submission _ (.refl _))
  · exact fun (k, loop) ↦ hlater ((hflow _).flush _ (.refl _))
  · exact fun (k, loop) ↦ hlater ((hflow _).close _ (.refl _))
  · exact fun (k, loop) ↦ hlater ((hflow _).reply _ (.refl _))

theorem idle_before (hidle : footing.Holds .idle w (k, loop)) :
    footing.Holds .idle w (k + 1, schedule.before service k loop) := by
  obtain ⟨hidle, hbelow, rfl⟩ := hidle
  exact hfirm.idle_performAll hidle hbelow (schedule.acts k)

theorem busy_before (hbusy : footing.Holds (.serving s) w (k, loop))
    (htime : footing.inTime (schedule.before service k loop)) :
    footing.Holds (.serving s) w (k + 1, schedule.before service k loop) := by
  obtain ⟨hbelow, need, rank, hbusy⟩ := hbusy
  obtain ⟨hbelow', -, need', rank', hbusy', -⟩ :=
    (hfirm.busy s w).performAll hfirm.inTime_of_before hbusy hbelow (schedule.acts k)
      (hfirm.inTime_of_before (schedule.acts_before_call service k loop) htime)
  exact ⟨hbelow', need', rank', hbusy'⟩

theorem pollReady_eq (hidle : footing.Holds .idle w (k, loop)) :
    (footing.flow service schedule).pollReady (k, loop) =
      (.ready (.ok ()), k + 1, schedule.before service k loop) := by
  have hready := hfirm.ready .caller (hfirm.idle_before schedule hidle).1
  simp [Footing.flow, Flow.amid, EventLoop.flow, hready]

theorem startDispatch_eq (submission : Submission V) (hidle : footing.Holds .idle w (k, loop)) :
    ∃ loop', (footing.flow service schedule).startDispatch submission (k, loop) =
        (.ok (), k + 1, loop') ∧ footing.Holds (.serving submission) w (k + 1, loop') := by
  obtain ⟨hidle', hbelow, hservice⟩ := hfirm.idle_before schedule hidle
  obtain ⟨loop', need, rank, hdispatch, hnear, -, -, hbusy, -⟩ := hfirm.dispatch submission hidle'
  refine ⟨loop', by simp [Footing.flow, Flow.amid, EventLoop.flow, hdispatch], hbelow.near hnear,
    need, rank, ?_⟩
  rwa [← hservice]

theorem pollFlush_eq (k : ℕ) (loop : EventLoop V ω) :
    (footing.flow service schedule).pollFlush (k, loop) =
      (.ready (.ok ()), k + 1, schedule.before service k loop) := by
  simp [Footing.flow, Flow.amid, EventLoop.flow, hfirm.flush]

theorem pollClose_eq (hidle : footing.Holds .idle w (k, loop)) :
    ∃ loop', (footing.flow service schedule).pollClose (k, loop) = (.ready (.ok ()), k + 1, loop') ∧
      footing.Holds .closed w (k + 1, loop') := by
  obtain ⟨hidle', hbelow, hservice⟩ := hfirm.idle_before schedule hidle
  obtain ⟨loop', hclose, hnear, hkept, hgone⟩ := hfirm.close .caller hidle'
  exact ⟨loop', by simp [Footing.flow, Flow.amid, EventLoop.flow, hclose], hgone,
    hbelow.near hnear, hkept.trans hservice⟩

/-- A reply is there or not, and what the caller has found does not change how far it has come. -/
theorem pollReply_cases {need : Need} {rank : ℕ}
    (hbusy : footing.busy s w (schedule.before service k loop).floor need rank)
    (hbelow : (schedule.before service k loop).floor.TasksBelow footing.height) :
    (∃ loop', (footing.flow service schedule).pollReply (k, loop) = (.pending, k + 1, loop') ∧
        loop'.floor = (schedule.before service k loop).floor ∧
        (need = none → schedule.allowance k = 0)) ∨
      ∃ loop' answer w',
        (footing.flow service schedule).pollReply (k, loop) =
          (.ready (.ok ⟨s.ticket, answer⟩), k + 1, loop') ∧
        footing.answers s w answer w' ∧ footing.Holds .idle w' (k + 1, loop') := by
  rcases hfirm.reply .caller hbusy with
    ⟨loop', hreply, hfloor, hsteps⟩ | ⟨loop', answer, hreply, hnear, -, hidle, hanswer⟩
  · exact Or.inl ⟨loop', by simp [Footing.flow, Flow.amid, EventLoop.flow, hreply], hfloor, hsteps⟩
  · exact Or.inr ⟨loop', answer, loop'.service,
      by simp [Footing.flow, Flow.amid, EventLoop.flow, hreply], hanswer, hidle, hbelow.near hnear,
      rfl⟩

theorem late_pollReply (hlate : ¬ footing.inTime (schedule.before service k loop)) :
    footing.Late ((footing.flow service schedule).pollReply (k, loop)).2 := fun htime ↦
  hlate (hfirm.inTime_of_before
    ((EventLoop.before_flow _ service .caller footing.dock).reply _ (.refl _)) htime)

/-- A flow with firm footing is faithful under every schedule, until it is too late. -/
theorem faithful :
    (footing.flow service schedule).Faithful footing.answers footing.Late footing.Holds where
  lapses := hfirm.late_preserved schedule
  ready := by
    rintro w ⟨k, loop⟩ hidle
    rw [hfirm.pollReady_eq schedule hidle]
    exact Or.inr (hfirm.idle_before schedule hidle)
  dispatch := by
    rintro w ⟨k, loop⟩ submission hidle
    obtain ⟨loop', hdispatch, hserving⟩ := hfirm.startDispatch_eq schedule submission hidle
    rw [hdispatch]
    exact Or.inr ⟨rfl, hserving⟩
  flush := by
    rintro w ⟨k, loop⟩ submission hserving
    rw [hfirm.pollFlush_eq schedule]
    by_cases htime : footing.inTime (schedule.before service k loop)
    · exact Or.inr (hfirm.busy_before schedule hserving htime)
    · exact Or.inl htime
  reply := by
    rintro w ⟨k, loop⟩ submission hserving
    by_cases htime : footing.inTime (schedule.before service k loop)
    · obtain ⟨hbelow, need, rank, hbusy⟩ := hfirm.busy_before schedule hserving htime
      rcases hfirm.pollReply_cases schedule hbusy hbelow with
        ⟨loop', hreply, hfloor, -⟩ | ⟨loop', answer, w', hreply, hanswer, hidle⟩
      · rw [hreply]
        refine Or.inr ⟨?_, need, rank, ?_⟩
        · rwa [hfloor]
        · rwa [hfloor]
      · rw [hreply]
        exact Or.inr ⟨rfl, w', hanswer, hidle⟩
    · -- The reply does not turn back the clock.
      have hlate := hfirm.late_pollReply schedule htime
      rcases hreply : (footing.flow service schedule).pollReply (k, loop) with
        ⟨_ | _ | _, k', loop'⟩ <;> rw [hreply] at hlate
      · exact Or.inl hlate
      · exact hlate
      · exact Or.inl hlate
  close := by
    rintro w ⟨k, loop⟩ hidle
    obtain ⟨loop', hclose, hclosed⟩ := hfirm.pollClose_eq schedule hidle
    rw [hclose]
    exact Or.inr hclosed

/-- A submission whose reply is never found has come no further at the next call: the caller had no
steps to collect it, or no task that it needs had a turn late enough. -/
theorem stuck (hdefinite : footing.definite) {need : Need} {rank : ℕ}
    (hlower : ∀ rank' < rank, ∀ k (loop : EventLoop V ω) need',
      loop.floor.TasksBelow footing.height → footing.busy s w loop.floor need' rank' →
        Answered footing.Late (footing.flow service schedule).pollReply (k, loop))
    (hbelow : loop.floor.TasksBelow footing.height) (hbusy : footing.busy s w loop.floor need rank)
    (hnever : ¬ Answered footing.Late (footing.flow service schedule).pollReply (k, loop)) :
    (need = none → schedule.allowance k = 0) ∧
      (∀ id phases, .turn id (phases + 1) ∈ schedule.acts k → ¬ need.MetBy id loop.clock) ∧
      ∃ loop', loop'.clock = (schedule.before service k loop).clock ∧
        loop'.floor.TasksBelow footing.height ∧ footing.busy s w loop'.floor need rank ∧
        ¬ Answered footing.Late (footing.flow service schedule).pollReply (k + 1, loop') := by
  have htime : footing.inTime (schedule.before service k loop) := by
    by_contra hlate
    exact hnever (.lapse (hfirm.late_pollReply schedule hlate))
  obtain ⟨hbelow', -, need', rank', hbusy', hprogress⟩ :=
    (hfirm.busy s w).performAll hfirm.inTime_of_before hbusy hbelow (schedule.acts k)
      (hfirm.inTime_of_before (schedule.acts_before_call service k loop) htime)
  rcases hfirm.pollReply_cases schedule hbusy' hbelow' with
    ⟨loop', hreply, hfloor, hsteps⟩ | ⟨loop', answer, w', hreply, -, -⟩
  · have hnever' : ¬ Answered footing.Late (footing.flow service schedule).pollReply
        (k + 1, loop') := fun hanswered ↦ hnever (.later hreply hanswered)
    have hbusy'' : footing.busy s w loop'.floor need' rank' := hfloor ▸ hbusy'
    have hbelow'' : loop'.floor.TasksBelow footing.height := hfloor ▸ hbelow'
    have hsame : ¬ rank' < rank := fun hlt ↦
      hnever' (hlower rank' hlt (k + 1) loop' need' hbelow'' hbusy'')
    obtain ⟨rfl, rfl⟩ := (hprogress hdefinite).kept.resolve_left hsame
    exact ⟨hsteps, fun id phases hturn hmet ↦ hsame ((hprogress hdefinite).eased
      ⟨id, phases, hturn, hmet⟩), loop', congrArg Floor.clock hfloor, hbelow'', hbusy'', hnever'⟩
  · exact absurd (.now hreply) hnever

/-- Under a fair schedule, the reply to a submission being served is found in the end. -/
theorem answered_reply (hfair : schedule.Fair) (hdefinite : footing.definite) {need : Need}
    {rank : ℕ} (hbelow : loop.floor.TasksBelow footing.height)
    (hbusy : footing.busy s w loop.floor need rank) :
    Answered footing.Late (footing.flow service schedule).pollReply (k, loop) := by
  induction rank using Nat.strong_induction_on generalizing k loop need with
  | _ rank hlower =>
    by_contra hnever
    -- Then it is stuck at every later call.
    have hstuck : ∀ n, ∃ loop' : EventLoop V ω,
        (∀ m < n, ∀ tick, .passTo tick ∈ schedule.acts (k + m) → tick ≤ loop'.clock) ∧
          loop'.floor.TasksBelow footing.height ∧ footing.busy s w loop'.floor need rank ∧
          ¬ Answered footing.Late (footing.flow service schedule).pollReply (k + n, loop') := by
      intro n
      induction n with
      | zero => exact ⟨loop, by simp, hbelow, hbusy, hnever⟩
      | succ n ih =>
        obtain ⟨loop', htimes, hbelow', hbusy', hnever'⟩ := ih
        obtain ⟨-, -, loop'', hclock, hbelow'', hbusy'', hnever''⟩ := hfirm.stuck schedule hdefinite
          (fun rank' hlt _ _ _ hbelow hbusy ↦ hlower rank' hlt hbelow hbusy) hbelow' hbusy' hnever'
        refine ⟨loop'', fun m hm tick htick ↦ ?_, hbelow'', hbusy'', hnever''⟩
        rw [hclock]
        rcases Nat.lt_succ_iff_lt_or_eq.mp hm with hm | rfl
        · exact (htimes m hm tick htick).trans (loop'.before_performAll service _).clock
        · exact loop'.le_clock_performAll service htick
    have hfacts : ∀ n, ∃ loop' : EventLoop V ω,
        (∀ m < n, ∀ tick, .passTo tick ∈ schedule.acts (k + m) → tick ≤ loop'.clock) ∧
          (need = none → schedule.allowance (k + n) = 0) ∧
          ∀ id phases, .turn id (phases + 1) ∈ schedule.acts (k + n) →
            ¬ need.MetBy id loop'.clock := by
      intro n
      obtain ⟨loop', htimes, hbelow', hbusy', hnever'⟩ := hstuck n
      obtain ⟨hsteps, hturns, -⟩ := hfirm.stuck schedule hdefinite
        (fun rank' hlt _ _ _ hbelow hbusy ↦ hlower rank' hlt hbelow hbusy) hbelow' hbusy' hnever'
      exact ⟨loop', htimes, hsteps, hturns⟩
    rcases need with _ | ⟨id, tick⟩
    · obtain ⟨m, hm, hpositive⟩ := hfair.steps k
      obtain ⟨n, rfl⟩ := Nat.exists_eq_add_of_le hm
      obtain ⟨-, -, hsteps, -⟩ := hfacts n
      exact hpositive.ne' (hsteps rfl)
    · -- Once its time has come, the task needed gets a turn.
      obtain ⟨m, hm, later, hlater, hpassed⟩ := hfair.time tick k
      obtain ⟨n, rfl⟩ := Nat.exists_eq_add_of_le hm
      obtain ⟨m', hm', phases, hturn⟩ := hfair.turn id (k + n + 1)
      obtain ⟨n', rfl⟩ := Nat.exists_eq_add_of_le (by omega : k ≤ m')
      obtain ⟨loop', htimes, -, hturns⟩ := hfacts n'
      exact hturns id phases hturn ⟨tick, rfl, hlater.trans (htimes n (by omega) later hpassed)⟩

/-- No call on a flow with firm and definite footing is pending for ever under a fair schedule. -/
theorem lively (hfair : schedule.Fair) (hdefinite : footing.definite) :
    (footing.flow service schedule).Lively footing.Late footing.Holds where
  ready := by
    rintro w ⟨k, loop⟩ hidle
    exact .now (hfirm.pollReady_eq schedule hidle)
  flush := by
    rintro w ⟨k, loop⟩ submission -
    exact .now (hfirm.pollFlush_eq schedule k loop)
  reply := by
    rintro w ⟨k, loop⟩ submission ⟨hbelow, need, rank, hbusy⟩
    exact hfirm.answered_reply schedule hfair hdefinite hbelow hbusy
  close := by
    rintro w ⟨k, loop⟩ hidle
    obtain ⟨loop', hclose, -⟩ := hfirm.pollClose_eq schedule hidle
    exact .now hclose

end Firm

/-- So many calls have been made, or it has become too late. -/
def LateOrBeyond (footing : Footing V ω) (calls : ℕ) : ℕ × EventLoop V ω → Prop :=
  fun s ↦ calls ≤ s.1 ∨ footing.Late s

namespace Firm

variable {service : TimedService V ω} {footing : Footing V ω} (hfirm : footing.Firm service)
  (schedule : Schedule) (calls : ℕ)
include hfirm

theorem lateOrBeyond_preserved :
    (footing.flow service schedule).Preserves (footing.LateOrBeyond calls) := by
  have hlate := hfirm.late_preserved schedule
  constructor
  · exact fun s hs ↦ hs.imp (fun hk ↦ hk.trans (Nat.le_succ s.1)) (hlate.ready s)
  · exact fun submission s hs ↦
      hs.imp (fun hk ↦ hk.trans (Nat.le_succ s.1)) (hlate.dispatch submission s)
  · exact fun s hs ↦ hs.imp (fun hk ↦ hk.trans (Nat.le_succ s.1)) (hlate.flush s)
  · exact fun s hs ↦ hs.imp (fun hk ↦ hk.trans (Nat.le_succ s.1)) (hlate.close s)
  · exact fun s hs ↦ hs.imp (fun hk ↦ hk.trans (Nat.le_succ s.1)) (hlate.reply s)

theorem faithful_upTo : (footing.flow service schedule).Faithful footing.answers
    (footing.LateOrBeyond calls) footing.Holds :=
  (hfirm.faithful schedule).imp (fun _ ↦ Or.inr) (hfirm.lateOrBeyond_preserved schedule calls)

/-- Up to so many calls, nothing is pending for ever under any schedule. -/
theorem lively_upTo :
    (footing.flow service schedule).Lively (footing.LateOrBeyond calls) footing.Holds := by
  have hfaithful := hfirm.faithful_upTo schedule calls
  have hmeasure : ∀ (s s' : ℕ × EventLoop V ω), s'.1 = s.1 + 1 →
      footing.LateOrBeyond calls s' ∨ calls - s'.1 < calls - s.1 := by
    intro s s' hs'
    by_cases hbeyond : calls ≤ s'.1
    · exact Or.inl (Or.inl hbeyond)
    · exact Or.inr (by omega)
  constructor
  · exact fun hs ↦ answered_of_measure (fun _ ↦ hfaithful.ready) (fun s ↦ calls - s.1)
      (fun s ↦ hmeasure s _ rfl) hs
  · exact fun hs ↦ answered_of_measure (fun _ ↦ hfaithful.flush) (fun s ↦ calls - s.1)
      (fun s ↦ hmeasure s _ rfl) hs
  · exact fun hs ↦ answered_of_measure (fun _ ↦ hfaithful.reply) (fun s ↦ calls - s.1)
      (fun s ↦ hmeasure s _ rfl) hs
  · exact fun hs ↦ answered_of_measure (fun _ ↦ hfaithful.close) (fun s ↦ calls - s.1)
      (fun s ↦ hmeasure s _ rfl) hs

end Firm

end Footing

end Errand
