import Errand.EventLoop
import Errand.Proofs.Flow.Serving

/-!
Flows of an event loop in good health. A loopback line that is open and has nothing to collect
serves (`serves_line`), and so does a script that makes its caller wait but does nothing else amiss
(`serves_script`): however long its cues are, every call is answered in the end.
-/

set_option autoImplicit false

namespace Errand

variable {V : ValueTypes} {ω α : Type}

/-- However a submission was answered, the reply carries its ticket. -/
theorem Submission.settle_eq (submission : Submission V) (outcome : Except Failure Response) :
    submission.settle outcome = ⟨submission.ticket, (submission.settle outcome).answer⟩ := by
  cases outcome <;> rfl

namespace Script

/-- Every cue lets the call go well or makes it wait. -/
def Patient (script : Script V) : Prop :=
  ∀ call, ∀ cue ∈ script.cues call, cue = .well ∨ cue = .wait

/-- A patient script lets a call go well, or makes it wait and has fewer cues left for it. -/
theorem Patient.next_cases {script : Script V} (hpatient : script.Patient) (call : Call) :
    ∃ script', script'.Patient ∧ script'.queue = script.queue ∧
      (script.next call = (.well, script') ∨ script.next call = (.wait, script') ∧
        (script'.cues call).length < (script.cues call).length) := by
  refine ⟨(script.next call).2, ?_, rfl, ?_⟩
  · intro other cue hcue
    simp only [next] at hcue
    by_cases hother : other = call
    · rw [if_pos hother] at hcue
      exact hpatient call cue (List.mem_of_mem_tail hcue)
    · rw [if_neg hother] at hcue
      exact hpatient other cue hcue
  · rcases hcues : script.cues call with _ | ⟨cue, cues⟩
    · exact Or.inl (by simp [next, hcues])
    · rcases hpatient call cue (by simp [hcues]) with rfl | rfl
      · exact Or.inl (by simp [next, hcues])
      · exact Or.inr (by simp [next, hcues])

end Script

namespace EventLoop

variable (service : TimedService V ω) (who : Party)

/-- A patient script whose queue is such, at this time and with the service in this state. -/
structure Acts (clock : ℕ) (queue : List (Submission V)) (w : ω) (loop : EventLoop V ω) : Prop where
  patient : loop.script.Patient
  queue : loop.script.queue = queue
  clock : loop.clock = clock
  service : loop.service = w

@[simp] theorem wake_script (loop : EventLoop V ω) : (loop.wake who).script = loop.script := by
  obtain ⟨_, _, _, hwake⟩ := exists_wake_eq who loop
  rw [hwake]

theorem Acts.wake {clock : ℕ} {queue : List (Submission V)} {w : ω} {loop : EventLoop V ω}
    (hacts : loop.Acts clock queue w) : (loop.wake who).Acts clock queue w := by
  obtain ⟨_, _, _, hwake⟩ := exists_wake_eq who loop
  rw [hwake]
  exact ⟨hacts.patient, hacts.queue, hacts.clock, hacts.service⟩

/-- The script goes on as its next cue says. -/
theorem Acts.next {clock : ℕ} {queue : List (Submission V)} {w : ω} {loop : EventLoop V ω}
    (hacts : loop.Acts clock queue w) (call : Call) :
    ∃ script, { loop with script }.Acts clock queue w ∧
      (loop.script.next call = (.well, script) ∨ loop.script.next call = (.wait, script) ∧
        (script.cues call).length < (loop.script.cues call).length) := by
  obtain ⟨script, hpatient, hqueue, hnext⟩ := hacts.patient.next_cases call
  exact ⟨script, ⟨hpatient, hqueue.trans hacts.queue, hacts.clock, hacts.service⟩, hnext⟩

/-- A call of a patient script is answered once its cues are used up. -/
theorem eventually_onScript {clock : ℕ} {queue : List (Submission V)} {w : ω} (call : Call)
    {poll : EventLoop V ω → Poll (Except FlowError α) × EventLoop V ω}
    {after : α → EventLoop V ω → Prop}
    (hwell : ∀ loop script, { loop with script }.Acts clock queue w →
      loop.script.next call = (.well, script) →
        ∃ a loop', poll loop = (.ready (.ok a), loop') ∧ after a loop')
    (hwait : ∀ loop script, loop.script.next call = (.wait, script) →
      poll loop = (.pending, { loop with script }.wake who))
    {loop : EventLoop V ω} (hacts : loop.Acts clock queue w) : Eventually poll after loop := by
  -- Every time the script makes the call wait, it has fewer cues left for it.
  induction hcues : (loop.script.cues call).length using Nat.strong_induction_on
    generalizing loop with
  | _ n ih =>
    obtain ⟨script, hacts', hnext | ⟨hnext, hless⟩⟩ := hacts.next call
    · obtain ⟨a, loop', hpoll, hafter⟩ := hwell loop script hacts' hnext
      exact .now hpoll hafter
    · refine .later (hwait loop script hnext) (ih _ ?_ (hacts'.wake who) rfl)
      rwa [wake_script, ← hcues]

/-- How a patient script stands at each duty. -/
def ActsAt (clock : ℕ) : Duty V → ω → EventLoop V ω → Prop
  | .idle | .ready => Acts clock []
  | .holding submission | .sent submission => Acts clock [submission]

variable {who} in
/-- Calls that only succeed, wait or fail. -/
theorem eventually_poll {clock : ℕ} {queue : List (Submission V)} {w : ω} (call : Call)
    {loop : EventLoop V ω} (hacts : loop.Acts clock queue w) :
    Eventually (fun loop : EventLoop V ω ↦
        loop.onScript who (loop.script.poll call).1 (loop.script.poll call).2)
      (fun _ loop' ↦ loop'.Acts clock queue w) loop := by
  refine eventually_onScript who call ?_ ?_ hacts
  · intro loop script hacts hnext
    exact ⟨(), { loop with script }, by simp [Script.poll, hnext, onScript], hacts⟩
  · intro loop script hnext
    simp [Script.poll, hnext, onScript]

/-- A script replies to the oldest submission as the service does. -/
theorem pollReply_script {loop : EventLoop V ω} {script : Script V} {submission : Submission V}
    {queue : List (Submission V)} (hnext : loop.script.next .reply = (.well, script))
    (hqueue : script.queue = submission :: queue) :
    pollReply service who .script loop =
      (.ready (.ok ⟨submission.ticket, ((service loop.clock).answerer submission loop.service).1⟩),
        { loop with
          script := { script with queue }
          service := ((service loop.clock).answerer submission loop.service).2 }) := by
  simp only [pollReply, Script.reply, hnext, hqueue, onScript, Service.answerer]
  rw [← Submission.settle_eq]

/-- A script serves well if all it does amiss is to make its caller wait. -/
theorem serves_script {loop : EventLoop V ω} (hpatient : loop.script.Patient)
    (hqueue : loop.script.queue = []) :
    (flow service who .script).Serves (service loop.clock).answerer loop.service loop := by
  refine ⟨ActsAt loop.clock, ⟨eventually_poll .ready, ?_, eventually_poll .flush, ?_, ?_⟩,
    hpatient, hqueue, rfl, rfl⟩
  · intro w loop' submission hacts
    obtain ⟨script, hacts', hnext⟩ := Acts.next hacts .start
    refine ⟨{ loop' with script := { script with queue := script.queue ++ [submission] } },
      ?_, hacts'.patient, ?_, hacts'.clock, hacts'.service⟩
    · rcases hnext with hnext | ⟨hnext, -⟩ <;>
        simp [flow, startDispatch, Script.dispatch, hnext, Except.mapError]
    · exact congrArg (· ++ [submission]) hacts'.queue
  · intro w loop' submission hacts
    refine eventually_onScript who .reply ?_ ?_ hacts
    · intro loop' script hacts hnext
      have hreply := pollReply_script service who hnext hacts.queue
      have hclock : loop'.clock = loop.clock := hacts.clock
      have hservice : loop'.service = w := hacts.service
      rw [hclock, hservice] at hreply
      exact ⟨_, _, hreply, rfl, hacts.patient, rfl, rfl, rfl⟩
    · intro loop' script hnext
      simp [flow, pollReply, Script.reply, hnext, onScript]
  · intro w loop' hacts
    exact (eventually_poll .close hacts).imp fun _ _ _ ↦ trivial

/-- An open line answers a submission when it comes in. -/
theorem startDispatch_line {loop : EventLoop V ω} {index : ℕ}
    (hline : loop.lines[index]? = some .fresh) (submission : Submission V) :
    startDispatch service (.line index) submission loop =
      (.ok (), { loop with
        lines := loop.lines.setIfInBounds index
          ⟨[⟨submission.ticket, ((service loop.clock).answerer submission loop.service).1⟩], false⟩
        journal := loop.journal.push submission.route
        service := ((service loop.clock).answerer submission loop.service).2 }) := by
  simp only [startDispatch, hline, Option.getD_some, Loopback.Line.dispatch, Loopback.Line.fresh,
    Service.answerer, Bool.false_eq_true, if_false, List.nil_append, Except.mapError]
  rw [← Submission.settle_eq]

theorem pollReply_line {loop : EventLoop V ω} {index : ℕ} {reply : Reply V}
    (hline : loop.lines[index]? = some ⟨[reply], false⟩) :
    pollReply service who (.line index) loop =
      (.ready (.ok reply), { loop with lines := loop.lines.setIfInBounds index .fresh }) := by
  simp [pollReply, hline, Loopback.Line.collect, Loopback.Line.fresh, Except.mapError]

/-- How an open loopback line stands at each duty. -/
def LineAt (clock index : ℕ) : Duty V → ω → EventLoop V ω → Prop
  | .idle, w, loop | .ready, w, loop =>
    loop.clock = clock ∧ loop.service = w ∧ loop.lines[index]? = some .fresh
  | .holding submission, w, loop | .sent submission, w, loop =>
    loop.clock = clock ∧ loop.service = ((service clock).answerer submission w).2 ∧
      loop.lines[index]? =
        some ⟨[⟨submission.ticket, ((service clock).answerer submission w).1⟩], false⟩

/-- A loopback line serves well while it is open and everything has been collected. -/
theorem serves_line {loop : EventLoop V ω} {index : ℕ} (hline : loop.lines[index]? = some .fresh) :
    (flow service who (.line index)).Serves (service loop.clock).answerer loop.service loop := by
  have hset : ∀ {loop : EventLoop V ω} {line : Loopback.Line V}, loop.lines[index]? = some line →
      ∀ line', (loop.lines.setIfInBounds index line')[index]? = some line' := by
    intro loop line hline line'
    rw [Array.getElem?_setIfInBounds_self, if_pos (Array.getElem?_eq_some_iff.mp hline).1]
  refine ⟨LineAt service loop.clock index, ⟨?_, ?_, ?_, ?_, ?_⟩, rfl, rfl, hline⟩
  · rintro w loop' ⟨hclock, hservice, hline⟩
    refine .now (a := ()) ?_ ⟨hclock, hservice, hline⟩
    simp [flow, pollReady, hline, Loopback.Line.ready, Loopback.Line.fresh, Except.mapError]
  · rintro w loop' submission ⟨hclock, rfl, hline⟩
    refine ⟨_, startDispatch_line service hline submission, hclock, ?_, ?_⟩
    · rw [hclock]
    · rw [hclock]
      exact hset hline _
  · intro w loop' submission hholding
    exact .now rfl hholding
  · rintro w loop' submission ⟨hclock, hservice, hline⟩
    exact .now (pollReply_line service who hline) ⟨rfl, hclock, hservice, hset hline _⟩
  · intro w loop' _
    exact .now rfl trivial

end EventLoop

end Errand
