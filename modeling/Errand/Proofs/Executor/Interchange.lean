import Errand.Proofs.Executor.Reference
import Errand.Proofs.Program.MonadLaws

/-!
Executors that never retry are interchangeable (`Executor.interchangeable`): a loopback executor, a
task executor of any latency, and a retrying executor around either whose policy is to fail, over
and over. Their channels may have any room that a channel can have at all; one that is asked for
more is not opened (`Executor.tasks_excessive`).
-/

set_option autoImplicit false

namespace Errand

open Course

variable {V : ValueTypes} {S ω : Type}

/-- Over this flow a run of the plan is intact and shows no more than the evaluation of the plan,
and whenever nothing is in flight, the service has been asked about what the run dispatched, once
about each submission and in order. -/
def HandsOver [Resumes V S] (service : Service V ω) (w : ω)
    (flow : Flow V (ℕ × EventLoop V ω) FlowError) (plan : Plan V S) (s : ℕ × EventLoop V ω) :
    Prop :=
  ∀ n, Intact (after flow plan s n).history ∧
    (∃ depth, (after flow plan s n).trace <+: (account service.answerer depth plan w).trace) ∧
    (Settled (after flow plan s n).history → (after flow plan s n).state.2.service =
      service.answerer.tell (dispatchedIn (after flow plan s n).history) w)

namespace Executor

/-- The executor never retries. -/
def Transparent : Executor → Prop
  | loopback | tasks _ _ => True
  | retrying inner policy _ =>
    inner.Transparent ∧ policy.timeout = none ∧ policy.GivesUpAfter 0
  | script => False

namespace Transparent

variable {executor : Executor} (htransparent : executor.Transparent)
include htransparent

theorem determined : executor.Determined := by
  induction executor with
  | loopback => trivial
  | tasks latency buffer => trivial
  | retrying inner policy buffer ih =>
    exact ⟨ih htransparent.1, htransparent.2.1, 0, htransparent.2.2⟩
  | script => exact htransparent

/-- What it answers is what the service answers. -/
theorem answerer_eq (service : Service V ω) : executor.answerer service = service.answerer := by
  induction executor with
  | loopback => rfl
  | tasks latency buffer => rfl
  | retrying inner policy buffer ih =>
    have hmost : policy.most = 0 := Nat.sInf_eq_zero.mpr (Or.inl htransparent.2.2)
    rw [answerer, hmost, ih htransparent.1]
    rfl
  | script => exact htransparent.elim

/-- Nothing is ever asked of the clock. -/
theorem inTime (loop : EventLoop V ω) : executor.InTime loop := by
  induction executor with
  | loopback => trivial
  | tasks latency buffer => trivial
  | retrying inner policy buffer ih =>
    obtain ⟨hinner, htimeout, hfails⟩ := htransparent
    refine ⟨ih hinner, ⟨fun timeout hsome ↦ ?_, fun hevent hretry ↦ ?_⟩⟩
    · rw [htimeout] at hsome
      cases hsome
    · rw [hfails _ _ (Nat.zero_le _)] at hretry
      cases hretry
  | script => exact htransparent.elim

end Transparent

/-- Executors that never retry are interchangeable: the runs of a plan over their flows ask the
service about the same submissions, and under fair schedules they dispatch the same requests, return
the same items in the same order and end alike. -/
theorem interchangeable [Resumes V S] {executor executor' : Executor} (hroomy : executor.Roomy)
    (hroomy' : executor'.Roomy) (htransparent : executor.Transparent)
    (htransparent' : executor'.Transparent) (service : Service V ω) (w : ω)
    (cues : Call → List Cue) (plan : Plan V S) :
    ∃ dock loop dock' loop', executor.openFlow (.start w cues) = .ok (dock, loop) ∧
      executor'.openFlow (.start w cues) = .ok (dock', loop') ∧ ∀ schedule schedule' : Schedule,
        let timed : TimedService V ω := fun _ ↦ service
        let flow := (EventLoop.flow timed .caller dock).amid timed schedule
        let flow' := (EventLoop.flow timed .caller dock').amid timed schedule'
        HandsOver service w flow plan (0, loop) ∧ HandsOver service w flow' plan (0, loop') ∧
          (schedule.Fair → schedule'.Fair →
            RunsAlike flow (0, loop) flow' (0, loop') plan plan) := by
  -- Each of them runs as the service determines.
  have hdetermined : ∀ {executor : Executor}, executor.Roomy → executor.Transparent → ∃ dock loop,
      executor.openFlow (.start w cues) = .ok (dock, loop) ∧ ∀ schedule : Schedule,
        let timed : TimedService V ω := fun _ ↦ service
        let flow := (EventLoop.flow timed .caller dock).amid timed schedule
        HandsOver service w flow plan (0, loop) ∧ (schedule.Fair → ∀ shown,
          (Shows flow plan (0, loop) shown ↔
              ∃ depth, shown <+: (account service.answerer depth plan w).trace) ∧
            (EndsShowing flow plan (0, loop) shown ↔
              ∃ depth, (account service.answerer depth plan w).finish ≠ .cut ∧
                (account service.answerer depth plan w).trace = shown)) := by
    intro executor hroomy htransparent
    obtain ⟨loop, hopen, hidle, -⟩ := hroomy.opens (fun _ ↦ service) w cues
    refine ⟨_, loop, hopen, fun schedule ↦ ?_⟩
    have hsame := htransparent.answerer_eq service
    rw [← hsame]
    refine ⟨fun n ↦ ?_, fun hfair shown ↦ ?_⟩
    · rw [← hsame]
      exact htransparent.determined.keeps hroomy service schedule plan hidle rfl
        (htransparent.inTime _)
    · exact htransparent.determined.shows_iff hroomy service schedule plan hidle hfair
        (fun _ ↦ htransparent.inTime _) shown
  obtain ⟨dock, loop, hopen, hruns⟩ := hdetermined hroomy htransparent
  obtain ⟨dock', loop', hopen', hruns'⟩ := hdetermined hroomy' htransparent'
  refine ⟨dock, loop, dock', loop', hopen, hopen', fun schedule schedule' ↦
    ⟨(hruns schedule).1, (hruns' schedule').1, fun hfair hfair' shown ↦ ?_⟩⟩
  obtain ⟨hshows, hends⟩ := (hruns schedule).2 hfair shown
  obtain ⟨hshows', hends'⟩ := (hruns' schedule').2 hfair' shown
  exact ⟨hshows.trans hshows'.symm, hends.trans hends'.symm⟩

/-- A handler that takes five milliseconds, and a loopback line behind a task that never retries. -/
theorem interchangeable_of_latency_and_retrying :
    let service : Service values ℕ := fun _ n ↦ (.ok (.ok [n.toUInt8]), n + 1)
    let request : Request (Payload values) :=
      { route := ⟨.get, "/"⟩
        decode := fun response ↦ .ok (response.body.head?.map Carried.erase)
        label := "Get" }
    let plan : Erased values := .concat [.submit request, .submit request]
    let slow : Executor := .tasks (some (.saturated 5000000)) 3
    let behind : Executor := .retrying .loopback ⟨fun _ _ ↦ .fail, none⟩ 1
    (slow.Roomy ∧ behind.Roomy ∧ slow.Transparent ∧ behind.Transparent ∧ Schedule.steady.Fair) ∧
      ∃ dock loop dock' loop', slow.openFlow (.start 7 fun _ ↦ []) = .ok (dock, loop) ∧
        behind.openFlow (.start 7 fun _ ↦ []) = .ok (dock', loop') ∧
        let timed : TimedService values ℕ := fun _ ↦ service
        RunsAlike ((EventLoop.flow timed .caller dock).amid timed .steady) (0, loop)
          ((EventLoop.flow timed .caller dock').amid timed .steady) (0, loop') plan plan := by
  intro service request plan slow behind
  have hslow : slow.Roomy := ⟨by decide, by decide⟩
  have hbehind : behind.Roomy := ⟨trivial, by decide, by decide⟩
  have hnever : behind.Transparent := ⟨trivial, rfl, fun _ _ _ ↦ rfl⟩
  obtain ⟨dock, loop, dock', loop', hopen, hopen', hruns⟩ :=
    interchangeable hslow hbehind trivial hnever service 7 (fun _ ↦ []) plan
  exact ⟨⟨hslow, hbehind, trivial, hnever, Schedule.steady_fair⟩, dock, loop, dock', loop', hopen,
    hopen', (hruns .steady .steady).2.2 Schedule.steady_fair Schedule.steady_fair⟩

/-- A channel that is to keep more replies than a channel can does not come about, though a loopback
line would have served. -/
theorem tasks_excessive :
    (Executor.tasks none (2 ^ 61)).openFlow
        (EventLoop.start () fun _ ↦ [] : EventLoop values Unit) = .error .excessive ∧
      ∃ dock loop, Executor.loopback.openFlow (EventLoop.start () fun _ ↦ []) = .ok (dock, loop) ∧
        let timed : TimedService values Unit := fun _ _ w ↦ (.ok (.ok []), w)
        EndsShowing ((EventLoop.flow timed .caller dock).amid timed .steady)
          (.done (Carried.erase (7 : UInt8)) : Erased values) (0, loop)
          [.yielded (Carried.erase (7 : UInt8))] := by
  refine ⟨?_, _, _, rfl, 2, ?_, ?_⟩
  · have hroom : Channel.mostRoom < 2 ^ 61 := by decide
    rw [openFlow, spawn, EventLoop.openLink, Link.ofCapacity, if_pos hroom]
    rfl
  · exact .tail _ (.tail _ (.head _))
  · rfl

end Executor

end Errand
