import Errand.Proofs.Executor.Reference

/-!
How long retrying endures. As long as the clock can tell the waits that come up, no task crashes,
whatever the policy says and however long it waits: a run is intact, and every submission is in hand
or has had its one answer (`Executor.retrying_endures`). A wait that reaches beyond the clock
crashes the task, even where it is too long for the time limit (`Executor.retrying_crashes`).
-/

set_option autoImplicit false

namespace Errand

open Course

variable {V : ValueTypes} {S ω : Type}

/-- A retrying task that has asked for an instant beyond the clock. -/
inductive Job.Crashed : Job V → Prop where
  | retry (link : ℕ) (inner : Dock) (policy : Retry.Policy) :
    Crashed (.retry link inner policy .crashed)

/-- None of the tasks below `height` has crashed. -/
def Floor.SoundBelow (height : ℕ) (f : Floor V ω) : Prop :=
  ∀ id < height, ∀ job, f.jobs id = some job → ¬ job.Crashed

theorem Floor.SoundBelow.succ {height : ℕ} {f : Floor V ω} (hsound : f.SoundBelow height)
    {job : Job V} (hjob : f.jobs height = some job) (hwell : ¬ job.Crashed) :
    f.SoundBelow (height + 1) := by
  intro id hid job' hjob'
  rcases Nat.lt_succ_iff_lt_or_eq.mp hid with hid | rfl
  · exact hsound id hid job' hjob'
  · obtain rfl : job = job' := Option.some.inj (hjob.symm.trans hjob')
    exact hwell

namespace Footing

/-- None of its tasks ever crashes. -/
structure Sound (footing : Footing V ω) : Prop where
  idle : ∀ {f}, footing.idle f → f.SoundBelow footing.height
  busy : ∀ {s w f need rank}, footing.busy s w f need rank → f.SoundBelow footing.height
  gone : ∀ {f}, footing.gone f → f.SoundBelow footing.height

theorem sound_line (service : TimedService V ω) : (line service).Sound :=
  ⟨fun _ _ ↦ nofun, fun _ _ ↦ nofun, fun _ _ ↦ nofun⟩

theorem sound_tasks (service : TimedService V ω) (latency : Option Duration) (buffer : ℕ) :
    (tasks service latency buffer).Sound := by
  have hserve : ∀ {f : Floor V ω} {phase}, f.jobs 0 = some (.serve 0 latency phase) →
      f.SoundBelow 1 := fun hjob ↦ .succ (fun _ ↦ nofun) hjob nofun
  refine ⟨fun hidle ↦ hserve hidle.2, fun hhandled ↦ ?_, fun ⟨_, _, _, _, hjob, _⟩ ↦ hserve hjob⟩
  cases hhandled with
  | queued _ hjob => exact hserve hjob
  | handling _ _ hjob => exact hserve hjob
  | replying _ _ hjob => exact hserve hjob
  | replied _ _ hjob => exact hserve hjob

variable {inner : Footing V ω} (hinner : inner.Sound) {policy : Retry.Policy} {buffer : ℕ}
include hinner

theorem Pursuit.sound {s : Submission V} {w : ω} {f : Floor V ω} {need : Need} {rank : ℕ}
    (hpursuit : Pursuit inner policy s w f need rank) : f.SoundBelow (inner.height + 1) := by
  cases hpursuit with
  | dispatching _ _ _ _ hjob hidle => exact (hinner.idle hidle).succ hjob nofun
  | awaiting _ _ _ _ hjob hbusy => exact (hinner.busy hbusy).succ hjob nofun
  | sleeping _ _ _ _ _ hjob hidle => exact (hinner.idle hidle).succ hjob nofun
  | returning _ _ hjob hidle => exact (hinner.idle hidle).succ hjob nofun

theorem sound_retrying : (retrying inner policy buffer).Sound where
  idle hidle := (hinner.idle hidle.2.2).succ hidle.2.1 nofun
  busy hserved := by
    cases hserved with
    | received _ hjob hidle => exact (hinner.idle hidle).succ hjob nofun
    | pursued _ hpursuit => exact hpursuit.sound hinner
    | returned _ _ hjob hidle => exact (hinner.idle hidle).succ hjob nofun
  gone hgone := by
    cases hgone.2 with
    | resting phase hphase hjob hidle =>
      refine (hinner.idle hidle).succ hjob ?_
      rcases hphase with rfl | rfl <;> nofun
    | stopped hjob hgone => exact (hinner.gone hgone).succ hjob nofun

end Footing

namespace Executor

theorem sound (service : TimedService V ω) (executor : Executor) :
    (executor.footing service).Sound := by
  induction executor with
  | loopback => exact Footing.sound_line service
  | tasks latency buffer => exact Footing.sound_tasks service latency buffer
  | retrying inner policy buffer ih => exact Footing.sound_retrying ih
  | script => exact Footing.sound_line service

/-- Whatever a policy says about failures and whatever its time limit is, retrying endures as long
as the clock can tell the time limit and the waits that have come up: no task has crashed, the run
is intact, and every submission has had one answer, the last one of those to its attempts, except
that the last submission may still be in hand. -/
theorem retrying_endures [Resumes V S] {inner : Executor} {policy : Retry.Policy} {buffer : ℕ}
    (hroomy : (retrying inner policy buffer).Roomy) (service : TimedService V ω) (w : ω)
    (cues : Call → List Cue) (plan : Plan V S) :
    ∃ dock loop, (retrying inner policy buffer).openFlow (.start w cues) = .ok (dock, loop) ∧
      ∀ schedule n,
        let flow := (EventLoop.flow service .caller dock).amid service schedule
        let c := after flow plan (0, loop) n
        (retrying inner policy buffer).InTime c.state.2 →
          (∀ job ∈ c.state.2.jobs, ¬ job.Crashed) ∧ Intact c.history ∧
            ∃ charge w', Charge.Fits c.history charge ∧
              Told (policy.answering (inner.footing service).answers) (exchangesIn c.history) w
                w' := by
  obtain ⟨loop, hopen, hidle, -⟩ := hroomy.opens service w cues
  refine ⟨_, loop, hopen, fun schedule n ↦ ?_⟩
  intro flow c htime
  rw [← footing_inTime _ service] at htime
  obtain ⟨hintact, charge, w', hholds, htold, hfits⟩ :=
    ((hroomy.firm service).faithful schedule).keeps plan hidle (n := n) (not_not_intro htime)
  refine ⟨?_, hintact, charge, w', hfits, htold⟩
  have hsound := sound service (retrying inner policy buffer)
  have hall : ∀ {f : Floor V ω},
      f.SoundBelow ((retrying inner policy buffer).footing service).height →
      f.TasksBelow ((retrying inner policy buffer).footing service).height → f = c.state.2.floor →
      ∀ job ∈ c.state.2.jobs, ¬ job.Crashed := by
    rintro f hbelow htasks rfl job hjob
    obtain ⟨id, hid⟩ := Array.mem_iff_getElem?.mp hjob
    exact hbelow id (htasks.lt hid) job hid
  cases charge with
  | idle => exact hall (hsound.idle hholds.1) hholds.2.1 rfl
  | serving submission =>
    obtain ⟨hbelow, need, rank, hbusy⟩ := hholds
    exact hall (hsound.busy hbusy) hbelow rfl
  | closed => exact hall (hsound.gone hholds.1) hholds.2.1 rfl

/-- A service that drops everything, retried twice within a second. -/
theorem retrying_endures_of_dropping :
    let service : TimedService values ℕ := fun _ _ n ↦ (.error (.dropped "gone"), n + 1)
    let policy : Retry.Policy :=
      { Retry.Policy.scheduled (· matches .dropped _) (.replicate 2 (.saturated nanosPerTick)) with
        timeout := some (.saturated nanosPerSecond) }
    let request : Request (Payload values) :=
      { route := ⟨.get, "/"⟩
        decode := fun response ↦ .ok (response.body.head?.map Carried.erase)
        label := "Get" }
    let plan : Erased values := .submit request
    let executor : Executor := .retrying .loopback policy 1
    executor.Roomy ∧ ∃ dock loop, executor.openFlow (.start 0 fun _ ↦ []) = .ok (dock, loop) ∧
      let c := after ((EventLoop.flow service .caller dock).amid service .steady) plan (0, loop) 5
      executor.InTime c.state.2 ∧ (∀ job ∈ c.state.2.jobs, ¬ job.Crashed) ∧
        Intact c.history := by
  intro service policy request plan executor
  have hroomy : executor.Roomy := ⟨trivial, by decide, by decide⟩
  obtain ⟨dock, loop, hopen, hruns⟩ := retrying_endures hroomy service 0 (fun _ ↦ []) plan
  refine ⟨hroomy, dock, loop, hopen, ?_⟩
  intro c
  have htold : (∀ timeout ∈ policy.timeout, (after? c.state.2.now timeout).isSome = true) ∧
      ∀ wait ∈ c.state.2.events.toList.filterMap Event.wait?,
        (after? c.state.2.now wait).isSome = true := by
    cases hopen
    decide +kernel
  have htime : executor.InTime c.state.2 := ⟨trivial, Retry.Policy.inTime_of_waits htold.1 htold.2⟩
  obtain ⟨hwell, hintact, -⟩ := hruns .steady 5 htime
  exact ⟨htime, hwell, hintact⟩

/-- A service that asks for the longest wait crashes the task, though the wait is too long for the
time limit and the rate limit should have been passed on. -/
theorem retrying_crashes :
    let service : TimedService values ℕ := fun _ _ n ↦
      (.error (.rateLimited false (some .longest)), n + 1)
    let policy : Retry.Policy :=
      { Retry.Policy.scheduled (· matches .rateLimited _ _) [.saturated nanosPerSecond] with
        timeout := some (.saturated (10 * nanosPerSecond)) }
    let request : Request (Payload values) :=
      { route := ⟨.get, "/"⟩
        decode := fun response ↦ .ok (response.body.head?.map Carried.erase)
        label := "Get" }
    let plan : Erased values := .submit request
    let executor : Executor := .retrying .loopback policy 1
    ∃ dock loop, executor.openFlow (.start 0 fun _ ↦ []) = .ok (dock, loop) ∧
      let c := after ((EventLoop.flow service .caller dock).amid service .steady) plan (0, loop) 2
      c.state.2.jobs.toList = [.retry 0 (.line 0) policy .crashed] ∧
        c.history.getLast? = some (.returned (.ready (some (.error (.collect .stopped))))) :=
  ⟨_, _, rfl, rfl, rfl⟩

end Executor

end Errand
