import Errand.Proofs.EventLoop.Floor
import Errand.Proofs.Run.Determinism

/-!
What goes on in an event loop neither turns back its clock nor forgets what its tasks have reported
(`EventLoop.Before`): not the calls on a flow and not what is done at a desk
(`EventLoop.before_flow`, `EventLoop.before_desk`), so not the turns of tasks either
(`EventLoop.before_runFor`).
-/

set_option autoImplicit false

namespace Errand

variable {V : ValueTypes} {σ ω α ε : Type}

/-! ### What a task leaves such -/

/-- Whatever is done at a desk, its surroundings stay such. -/
structure Desk.Preserves (desk : Desk V σ) (such : σ → Prop) : Prop where
  next : ∀ s, such s → such (desk.next s).2
  reply : ∀ reply s, such s → such (desk.reply reply s).2
  sleepUntil : ∀ instant s, such s → such (desk.sleepUntil instant s).2
  log : ∀ event s, such s → such (desk.log event s)

theorem Worker.advance_preserves {desk : Desk V σ} {service : Service V σ} {such : σ → Prop}
    (hdesk : desk.Preserves such)
    (hservice : ∀ submission s, such s → such (service submission s).2)
    (latency : Option Duration) (phase : Worker.Phase V) {s : σ} (hs : such s) :
    such (Worker.advance desk service latency phase s).2 := by
  have hhandle : ∀ submission s, such s → such (Worker.handle desk service submission s).2 := by
    intro submission s hs
    have hasked := hservice submission s hs
    rcases hanswer : service submission s with ⟨_ | _, s'⟩ <;> rw [hanswer] at hasked
    · simpa [Worker.handle, hanswer] using hdesk.log _ _ hasked
    · simpa [Worker.handle, hanswer] using hasked
  cases phase with
  | next =>
    have hnext := hdesk.next s hs
    rcases htaken : desk.next s with ⟨_ | _ | submission, s'⟩ <;> rw [htaken] at hnext
    · simpa [Worker.advance, htaken] using hnext
    · simpa [Worker.advance, htaken] using hnext
    · have hlogged := hdesk.log (.serving submission.ticket submission.route) s' hnext
      cases latency with
      | none => simpa [Worker.advance, htaken] using hhandle submission _ hlogged
      | some latency => simpa [Worker.advance, htaken] using hlogged
  | handling submission wakeUp =>
    have hslept := hdesk.sleepUntil wakeUp s hs
    rcases hcome : desk.sleepUntil wakeUp s with ⟨_ | _, s'⟩ <;> rw [hcome] at hslept
    · simpa [Worker.advance, hcome] using hslept
    · simpa [Worker.advance, hcome] using hhandle submission s' hslept
  | replying reply =>
    have hreply := hdesk.reply reply s hs
    rcases hsent : desk.reply reply s with ⟨_ | _ | _, s'⟩ <;> rw [hsent] at hreply
    · simpa [Worker.advance, hsent] using hreply
    · simpa [Worker.advance, hsent] using hdesk.log _ _ hreply
    · simpa [Worker.advance, hsent] using hreply
  | stopped => exact hs

theorem Retry.reconsider_preserves {desk : Desk V σ} {such : σ → Prop}
    (hdesk : desk.Preserves such) (policy : Retry.Policy) (attempt : Retry.Attempt V)
    (cause : Failure) (reply : Reply V) {s : σ} (hs : such s) :
    such (Retry.reconsider desk policy attempt cause reply s).2 := by
  unfold Retry.reconsider
  dsimp only
  rcases policy.recover ⟨attempt.submission.ticket, attempt.retries⟩ cause with delay | _
  · simp only
    split
    · exact hdesk.log _ _ hs
    · split_ifs
      · exact hdesk.log _ _ (hdesk.log _ _ hs)
      · exact hdesk.log _ _ hs
  · exact hs

theorem Retry.advance_preserves {desk : Desk V σ} {inner : Flow V σ ε} {such : σ → Prop}
    (hdesk : desk.Preserves such) (hinner : inner.Preserves such) (describe : ε → String)
    (policy : Retry.Policy) (phase : Retry.Phase V) {s : σ} (hs : such s) :
    such (Retry.advance desk inner describe policy phase s).2 := by
  cases phase with
  | next =>
    have hnext := hdesk.next s hs
    rcases htaken : desk.next s with ⟨_ | _ | submission, s'⟩ <;> rw [htaken] at hnext <;>
      simpa [Retry.advance, htaken] using hnext
  | trying attempt stage =>
    have hpoll := stage.poll_preserves hinner hs
    rcases hcome : stage.poll inner s with ⟨_ | _ | _ | reply, s'⟩ <;> rw [hcome] at hpoll
    · simpa [Retry.advance, hcome] using hpoll
    · simpa [Retry.advance, Retry.abandon, hcome] using hdesk.log _ _ hpoll
    · simpa [Retry.advance, Retry.abandon, hcome] using hdesk.log _ _ hpoll
    · rcases hanswer : reply.answer with _ | _ | cause
      · simpa [Retry.advance, hcome, hanswer] using hpoll
      · simpa [Retry.advance, hcome, hanswer] using hpoll
      · simpa [Retry.advance, hcome, hanswer] using
          Retry.reconsider_preserves hdesk policy attempt cause reply hpoll
  | sleeping attempt wakeUp =>
    have hslept := hdesk.sleepUntil wakeUp s hs
    rcases hcome : desk.sleepUntil wakeUp s with ⟨_ | _, s'⟩ <;> rw [hcome] at hslept <;>
      simpa [Retry.advance, hcome] using hslept
  | replying ticket reply =>
    have hreply := hdesk.reply reply s hs
    rcases hsent : desk.reply reply s with ⟨_ | _ | _, s'⟩ <;> rw [hsent] at hreply
    · simpa [Retry.advance, hsent] using hreply
    · simpa [Retry.advance, hsent] using hdesk.log _ _ hreply
    · simpa [Retry.advance, hsent] using hreply
  | closing =>
    have hclose := hinner.close s hs
    rcases hclosed : inner.pollClose s with ⟨_ | _ | _, s'⟩ <;> rw [hclosed] at hclose
    · simpa [Retry.advance, hclosed] using hclose
    · simpa [Retry.advance, hclosed] using hdesk.log _ _ hclose
    · simpa [Retry.advance, hclosed] using hclose
  | stopped => exact hs
  | crashed => exact hs

namespace EventLoop

/-- Since then, time has not been turned back, and nothing reported has been forgotten. -/
structure Before (loop loop' : EventLoop V ω) : Prop where
  clock : loop.clock ≤ loop'.clock
  events : ∀ event ∈ loop.events, event ∈ loop'.events

namespace Before

variable {loop loop' loop'' : EventLoop V ω}

theorem of_eq (hclock : loop'.clock = loop.clock) (hevents : loop'.events = loop.events) :
    loop.Before loop' :=
  ⟨hclock.ge, fun _ hevent ↦ hevents ▸ hevent⟩

theorem refl (loop : EventLoop V ω) : loop.Before loop := .of_eq rfl rfl

theorem trans (hfirst : loop.Before loop') (hlast : loop'.Before loop'') : loop.Before loop'' :=
  ⟨hfirst.clock.trans hlast.clock, fun event hevent ↦
    hlast.events event (hfirst.events event hevent)⟩

end Before

/-! ### Calls on a flow, and what is done at a desk -/

variable (loop : EventLoop V ω)

theorem before_wake (who : Party) : loop.Before (loop.wake who) := by
  obtain ⟨_, _, _, hwake⟩ := exists_wake_eq who loop
  rw [hwake]
  exact .of_eq rfl rfl

theorem before_wakeAll (parties : List Party) : loop.Before (loop.wakeAll parties) := by
  induction parties generalizing loop with
  | nil => exact .refl loop
  | cons who parties ih => exact (loop.before_wake who).trans (ih _)

theorem before_log (event : Event) : loop.Before (loop.log event) :=
  ⟨le_rfl, fun _ hknown ↦ Array.mem_push_of_mem _ hknown⟩

theorem before_defer (who : Party) : loop.Before (loop.defer who) := by
  unfold EventLoop.defer
  split_ifs <;> exact .of_eq rfl rfl

theorem before_onLink (index : ℕ) (absent : α) (operation : Link V → Link.Outcome V α) :
    loop.Before (loop.onLink index absent operation).2 := by
  rcases hlink : loop.links[index]? with _ | link
  · simp only [onLink, hlink]
    exact .refl loop
  · simp only [onLink, hlink]
    refine .trans ?_ (before_wakeAll _ _)
    exact .of_eq rfl rfl

theorem before_paced (who : Party) {operation : EventLoop V ω → Poll α × EventLoop V ω}
    (hoperation : loop.Before (operation loop).2) :
    loop.Before (loop.paced who operation).2 := by
  unfold paced
  split_ifs
  · exact loop.before_defer who
  · rcases hdone : operation loop with ⟨_ | a, loop'⟩ <;> rw [hdone] at hoperation
    · exact hoperation
    · exact hoperation.trans (.of_eq rfl rfl)

theorem before_sleepUntil (who : Party) (instant : ℕ) :
    loop.Before (loop.sleepUntil who instant).2 := by
  refine loop.before_paced who ?_
  simp only [setTimer]
  split_ifs <;> exact .of_eq rfl rfl

theorem before_onScript (who : Party) (outcome : Poll (Except String α)) (script : Script V) :
    loop.Before (loop.onScript who outcome script).2 := by
  rcases outcome with _ | _ | _
  · have hset : loop.Before { loop with script } := .of_eq rfl rfl
    exact hset.trans (before_wake _ who)
  · exact .of_eq rfl rfl
  · exact .of_eq rfl rfl

theorem before_desk (who : Party) (index : ℕ) :
    (desk who index : Desk V (EventLoop V ω)).Preserves loop.Before where
  next loop' hbefore := hbefore.trans (loop'.before_paced who (loop'.before_onLink _ _ _))
  reply _ loop' hbefore := hbefore.trans (loop'.before_paced who (loop'.before_onLink _ _ _))
  sleepUntil instant loop' hbefore := hbefore.trans (loop'.before_sleepUntil who instant)
  log event loop' hbefore := hbefore.trans (loop'.before_log event)

theorem before_flow (service : TimedService V ω) (who : Party) (dock : Dock) :
    (flow service who dock).Preserves loop.Before where
  ready loop' hbefore := by
    cases dock with
    | script => exact hbefore.trans (loop'.before_onScript who _ _)
    | _ => exact hbefore
  dispatch submission loop' hbefore := by
    cases dock with
    | link index => exact hbefore.trans (before_onLink loop' index _ (Link.dispatch submission))
    | _ => exact hbefore.trans (.of_eq rfl rfl)
  flush loop' hbefore := by
    cases dock with
    | script => exact hbefore.trans (loop'.before_onScript who _ _)
    | _ => exact hbefore
  close loop' hbefore := by
    cases dock with
    | line index => exact hbefore.trans (.of_eq rfl rfl)
    | link index => exact hbefore.trans (before_onLink loop' index () Link.closeSending)
    | script => exact hbefore.trans (loop'.before_onScript who _ _)
  reply loop' hbefore := by
    cases dock with
    | line index => exact hbefore.trans (.of_eq rfl rfl)
    | link index =>
      have hpaced := hbefore.trans (loop'.before_paced who
        (loop'.before_onLink index (.ready none) (Link.collect who)))
      rcases hreply : loop'.paced who (onLink index (.ready none) (Link.collect who)) with
        ⟨_ | _ | _, loop''⟩ <;> rw [hreply] at hpaced <;>
        simpa [flow, pollReply, hreply] using hpaced
    | script =>
      have hasked : loop'.Before
          { loop' with service := (loop'.script.reply (service loop'.clock) loop'.service).2.2 } :=
        .of_eq rfl rfl
      exact hbefore.trans (hasked.trans (before_onScript _ who _ _))

end EventLoop

/-! ### Turns of tasks -/

theorem Job.before_advance (service : TimedService V ω) (id : ℕ) (job : Job V)
    (loop : EventLoop V ω) : loop.Before (job.advance service id loop).2 := by
  cases job with
  | serve link latency phase =>
    exact Worker.advance_preserves (loop.before_desk (.task id) link)
      (fun _ _ hbefore ↦ hbefore.trans (.of_eq rfl rfl)) latency phase (.refl loop)
  | retry link inner policy phase =>
    exact Retry.advance_preserves (loop.before_desk (.task id) link)
      (loop.before_flow service (.task id) inner) _ policy phase (.refl loop)

theorem Job.before_release (job : Job V) (loop : EventLoop V ω) :
    loop.Before (job.release loop) := by
  have hsending : ∀ dock (loop : EventLoop V ω), loop.Before (loop.dropSending dock) := by
    intro dock loop
    cases dock with
    | link index => exact loop.before_onLink index _ _
    | _ => exact .refl loop
  have hcollecting : ∀ dock (loop : EventLoop V ω), loop.Before (loop.dropCollecting dock) := by
    intro dock loop
    cases dock with
    | link index => exact loop.before_onLink index _ _
    | _ => exact .refl loop
  cases job with
  | serve link latency phase => exact loop.before_onLink link _ _
  | retry link inner policy phase =>
    exact ((hcollecting inner loop).trans (hsending inner _)).trans
      (EventLoop.before_onLink _ link _ _)

theorem Job.before_turn (service : TimedService V ω) (id phases : ℕ) (job : Job V)
    (loop : EventLoop V ω) : loop.Before (job.turn service id phases loop).2 := by
  induction phases generalizing job loop with
  | zero => exact loop.before_wake (.task id)
  | succ phases ih =>
    have hadvance := job.before_advance service id loop
    rcases hmove : job.advance service id loop with ⟨⟨_ | _ | _, job'⟩, loop'⟩ <;>
      rw [hmove] at hadvance <;> simp only [Job.turn, hmove]
    · exact hadvance.trans (ih job' loop')
    · exact hadvance
    · exact hadvance.trans (job'.before_release loop')

/-- The rest of a turn comes after its first phase. -/
theorem Job.before_rest (service : TimedService V ω) (id phases : ℕ) (job : Job V)
    (loop : EventLoop V ω) :
    (job.advance service id loop).2.Before (job.turn service id (phases + 1) loop).2 := by
  rcases hmove : job.advance service id loop with ⟨⟨_ | _ | _, job'⟩, loop'⟩ <;>
    simp only [Job.turn, hmove]
  · exact job'.before_turn service id phases loop'
  · exact .refl loop'
  · exact job'.before_release loop'

namespace EventLoop

variable (service : TimedService V ω) (phases id : ℕ) {loop : EventLoop V ω}

/-- What the event loop does after the turn of a task. -/
theorem before_settled {job : Job V} (hjob : loop.jobs[id]? = some job) :
    (job.turn service id phases
      { loop with running := some id, rerun := false, allowance := stepsPerTurn }).2.Before
        (loop.runFor service phases id) := by
  simp only [runFor, hjob]
  split_ifs
  · refine .trans ?_ (before_wake _ _)
    exact .of_eq rfl rfl
  · exact .of_eq rfl rfl

theorem before_runFor (loop : EventLoop V ω) : loop.Before (loop.runFor service phases id) := by
  rcases hjob : loop.jobs[id]? with _ | job
  · rw [runFor, hjob]
    exact .refl loop
  · have hbegun : loop.Before
        { loop with running := some id, rerun := false, allowance := stepsPerTurn } :=
      .of_eq rfl rfl
    exact (hbegun.trans (job.before_turn service id phases _)).trans
      (before_settled service phases id hjob)

end EventLoop

end Errand
