import Errand.Proofs.Run.History

/-!
A run is determined by the answers of its flow. `Flow.Path` says what a flow answers to calls made
one after the other; the calls in the history of a run are such a path (`Course.path_after`). Two
runs of one plan go together, call by call, until some call is answered differently
(`Course.parting_after`), whatever their flows are.
-/

set_option autoImplicit false

namespace Errand

variable {V : ValueTypes} {S σ σ' ε : Type}

/-! ### Calls and their answers -/

/-- A call, without its answer. -/
inductive Ask (V : ValueTypes) where
  | ready
  | dispatch (submission : Submission V)
  | flush
  | close
  | reply

def FlowCall.ask : FlowCall V ε → Ask V
  | .ready _ => .ready
  | .dispatch submission _ => .dispatch submission
  | .flush _ => .flush
  | .close _ => .close
  | .reply _ => .reply

namespace Flow

/-- Makes a call. -/
def make (flow : Flow V σ ε) (s : σ) : Ask V → FlowCall V ε × σ
  | .ready => (.ready (flow.pollReady s).1, (flow.pollReady s).2)
  | .dispatch submission =>
    (.dispatch submission (flow.startDispatch submission s).1, (flow.startDispatch submission s).2)
  | .flush => (.flush (flow.pollFlush s).1, (flow.pollFlush s).2)
  | .close => (.close (flow.pollClose s).1, (flow.pollClose s).2)
  | .reply => (.reply (flow.pollReply s).1, (flow.pollReply s).2)

/-- Calls made one after the other are answered so, and lead to this state. -/
inductive Path (flow : Flow V σ ε) : σ → List (FlowCall V ε) → σ → Prop
  | nil (s : σ) : Path flow s [] s
  | cons {s s' s'' : σ} {call : FlowCall V ε} {calls : List (FlowCall V ε)}
      (hmake : flow.make s call.ask = (call, s')) (hcalls : Path flow s' calls s'') :
      Path flow s (call :: calls) s''

variable {flow : Flow V σ ε} {s s' s'' : σ} {calls calls' : List (FlowCall V ε)}
  {call call' : FlowCall V ε}

theorem Path.concat (hcalls : flow.Path s calls s') (hmake : flow.make s' call.ask = (call, s'')) :
    flow.Path s (calls ++ [call]) s'' := by
  induction hcalls with
  | nil s => exact .cons hmake (.nil _)
  | cons hfirst _ ih => exact .cons hfirst (ih hmake)

/-- A flow gives only one answer. -/
theorem Path.unique (hpath : flow.Path s (calls ++ call :: calls') s')
    {later : List (FlowCall V ε)} (hother : flow.Path s (calls ++ call' :: later) s'')
    (hask : call.ask = call'.ask) : call = call' := by
  induction calls generalizing s with
  | nil =>
    cases hpath with
    | cons hmake _ =>
      cases hother with
      | cons hmake' _ =>
        rw [hask, hmake'] at hmake
        exact (congrArg Prod.fst hmake).symm
  | cons first calls ih =>
    cases hpath with
    | cons hmake hpath =>
      cases hother with
      | cons hmake' hother =>
        obtain rfl := congrArg Prod.snd (hmake.symm.trans hmake')
        exact ih hpath hother

/-- Whatever call is made, the state of the flow stays such. -/
structure Preserves (flow : Flow V σ ε) (such : σ → Prop) : Prop where
  ready : ∀ s, such s → such (flow.pollReady s).2
  dispatch : ∀ submission s, such s → such (flow.startDispatch submission s).2
  flush : ∀ s, such s → such (flow.pollFlush s).2
  close : ∀ s, such s → such (flow.pollClose s).2
  reply : ∀ s, such s → such (flow.pollReply s).2

end Flow

/-! ### What a run does to its flow -/

section Preserves

variable {flow : Flow V σ ε} {such : σ → Prop} (hflow : flow.Preserves such)
include hflow

theorem Stage.poll_preserves (stage : Stage V) {s : σ} (hs : such s) :
    such (stage.poll flow s).2 := by
  have hawait : ∀ s, such s → such (pollAwait flow s).2 := by
    intro s hs
    have hreply := hflow.reply s hs
    rcases hpoll : flow.pollReply s with ⟨_ | _ | _, s'⟩ <;>
      simpa [pollAwait, hpoll] using hreply
  have hflush : ∀ s, such s → such (pollFlush flow s).2 := by
    intro s hs
    have hflushed := hflow.flush s hs
    rcases hpoll : flow.pollFlush s with ⟨_ | _ | _, s'⟩ <;> rw [hpoll] at hflushed
    · simpa [pollFlush, hpoll] using hflushed
    · simpa [pollFlush, hpoll] using hflushed
    · simpa [pollFlush, hpoll] using hawait s' hflushed
  cases stage with
  | await => exact hawait s hs
  | flush => exact hflush s hs
  | dispatch submission =>
    have hready := hflow.ready s hs
    rcases hpoll : flow.pollReady s with ⟨_ | _ | _, s'⟩ <;> rw [hpoll] at hready
    · simpa [poll, pollDispatch, hpoll] using hready
    · simpa [poll, pollDispatch, hpoll] using hready
    · have hdispatch := hflow.dispatch submission s' hready
      rcases hstart : flow.startDispatch submission s' with ⟨_ | _, s''⟩ <;>
        rw [hstart] at hdispatch
      · simpa [poll, pollDispatch, hpoll, hstart] using hdispatch
      · simpa [poll, pollDispatch, hpoll, hstart] using hflush s'' hdispatch

omit hflow in
theorem Flight.poll_snd (flow : Flow V σ ε) (flight : Flight V S) (s : σ) :
    (flight.poll flow s).2 = (flight.stage.poll flow s).2 := by
  unfold Flight.poll
  rcases flight.stage.poll flow s with ⟨_ | _ | _ | reply, s'⟩
  · rfl
  · rfl
  · rfl
  · by_cases hticket : reply.ticket = flight.ticket <;> simp [hticket]

/-- What every call keeps true of the flow, a move does. -/
theorem Run.step_preserves [Resumes V S] (run : Run V S) {s : σ} (hs : such s) :
    such (run.step flow s).2 := by
  cases run using step_cases with
  | ended => exact hs
  | closing =>
    have hclose := hflow.close s hs
    rcases hpoll : flow.pollClose s with ⟨_ | _ | _, s'⟩ <;>
      simpa [step, close, hpoll] using hclose
  | undertaking => exact hs
  | driving flight =>
    show such (flight.poll flow s).2
    rw [Flight.poll_snd]
    exact flight.stage.poll_preserves hflow hs

end Preserves

/-- A recording flow keeps a record of the path to its state. -/
theorem Flow.recorded_preserves_path (flow : Flow V σ ε) (s₀ : σ) :
    flow.recorded.Preserves fun s ↦ flow.Path s₀ s.2 s.1 where
  ready := fun _ hs ↦ hs.concat rfl
  dispatch := fun _ _ hs ↦ hs.concat rfl
  flush := fun _ hs ↦ hs.concat rfl
  close := fun _ hs ↦ hs.concat rfl
  reply := fun _ hs ↦ hs.concat rfl

theorem callsIn_returned (turn : Turn V ε) :
    callsIn (S := S) turn.returned = [] := by
  cases turn <;> rfl

/-- The calls in the history of a run lead to the state of its flow. -/
theorem Course.path_after [Resumes V S] (flow : Flow V σ ε) (plan : Plan V S) (s : σ) (n : ℕ) :
    flow.Path s (callsIn (after flow plan s n).history) (after flow plan s n).state := by
  refine after_induction (P := fun c ↦ flow.Path s (callsIn c.history) c.state) (.nil s) ?_ n
  intro c ih
  have hpath := c.run.step_preserves (flow.recorded_preserves_path s)
    (s := (c.state, callsIn c.history)) ih
  rw [Run.step_recorded, ← Run.callsIn_deeds] at hpath
  rw [next_eq, callsIn_append, ← Run.deeds, callsIn_append, callsIn_returned, List.append_nil]
  exact hpath

/-! ### Parting -/

/-- The first difference between the calls is an answer. -/
def Apart (calls calls' : List (FlowCall V ε)) : Prop :=
  ∃ past call call' later later', calls = past ++ call :: later ∧
    calls' = past ++ call' :: later' ∧ call.ask = call'.ask ∧ call ≠ call'

theorem Apart.cons {calls calls' : List (FlowCall V ε)} (hapart : Apart calls calls')
    (call : FlowCall V ε) : Apart (call :: calls) (call :: calls') := by
  obtain ⟨past, first, first', later, later', rfl, rfl, hask, hne⟩ := hapart
  exact ⟨call :: past, first, first', later, later', rfl, rfl, hask, hne⟩

theorem apart_of_ne {call call' : FlowCall V ε} (hask : call.ask = call'.ask) (hne : call ≠ call')
    (later later' : List (FlowCall V ε)) : Apart (call :: later) (call' :: later') :=
  ⟨[], call, call', later, later', rfl, rfl, hask, hne⟩

namespace Stage

section Calls

variable (flow : Flow V σ ε) (s : σ)

theorem calls_flush_eq_cons :
    ∃ later, calls flow .flush s = .flush (flow.pollFlush s).1 :: later := by
  rcases hpoll : flow.pollFlush s with ⟨_ | _ | _, t⟩
  · exact ⟨[], by simp [calls, poll, pollFlush, Flow.recorded_pollFlush, hpoll]⟩
  · exact ⟨[], by simp [calls, poll, pollFlush, Flow.recorded_pollFlush, hpoll]⟩
  · exact ⟨_, calls_flush hpoll⟩

theorem calls_dispatch_eq_cons_cons (submission : Submission V) {t : σ}
    (hready : flow.pollReady s = (.ready (.ok ()), t)) :
    ∃ later, calls flow (.dispatch submission) s = .ready (.ready (.ok ())) ::
      .dispatch submission (flow.startDispatch submission t).1 :: later := by
  rcases hstart : flow.startDispatch submission t with ⟨e | _, u⟩
  · exact ⟨[], by simp [calls, poll, pollDispatch, Flow.recorded_pollReady,
      Flow.recorded_startDispatch, hready, hstart]⟩
  · exact ⟨_, calls_dispatch hready hstart⟩

theorem calls_dispatch_eq_cons (submission : Submission V) :
    ∃ later, calls flow (.dispatch submission) s = .ready (flow.pollReady s).1 :: later := by
  rcases hready : flow.pollReady s with ⟨_ | _ | _, t⟩
  · exact ⟨[], by simp [calls, poll, pollDispatch, Flow.recorded_pollReady, hready]⟩
  · exact ⟨[], by simp [calls, poll, pollDispatch, Flow.recorded_pollReady, hready]⟩
  · obtain ⟨later, hcalls⟩ := calls_dispatch_eq_cons_cons flow s submission hready
    exact ⟨_, hcalls⟩

end Calls

section Parting

variable (flow : Flow V σ ε) (flow' : Flow V σ' ε)

/-- Driven over two flows, an exchange comes as far with the same calls, or some call is answered
differently. -/
def Parts (stage : Stage V) (s : σ) (s' : σ') : Prop :=
  ((stage.poll flow s).1 = (stage.poll flow' s').1 ∧ stage.calls flow s = stage.calls flow' s') ∨
    Apart (stage.calls flow s) (stage.calls flow' s')

theorem parts_await (s : σ) (s' : σ') : Parts flow flow' .await s s' := by
  unfold Parts
  rw [calls_await, calls_await]
  rcases hpoll : flow.pollReply s with ⟨answer, t⟩
  rcases hpoll' : flow'.pollReply s' with ⟨answer', t'⟩
  by_cases hsame : answer = answer'
  · subst hsame
    left
    rcases answer with _ | _ | _ <;> simp [poll, pollAwait, hpoll, hpoll']
  · right
    refine apart_of_ne ?_ ?_ [] []
    · rfl
    · simpa using hsame

theorem parts_flush (s : σ) (s' : σ') : Parts flow flow' .flush s s' := by
  by_cases hsame : (flow.pollFlush s).1 = (flow'.pollFlush s').1
  · rcases hpoll : flow.pollFlush s with ⟨answer, t⟩
    rcases hpoll' : flow'.pollFlush s' with ⟨answer', t'⟩
    obtain rfl : answer = answer' := by rwa [hpoll, hpoll'] at hsame
    rcases answer with _ | _ | _
    · left
      simp [poll, pollFlush, calls, Flow.recorded_pollFlush, hpoll, hpoll']
    · left
      simp [poll, pollFlush, calls, Flow.recorded_pollFlush, hpoll, hpoll']
    · unfold Parts
      rw [calls_flush hpoll, calls_flush hpoll']
      rcases parts_await flow flow' t t' with ⟨hcome, hcalls⟩ | hapart
      · exact Or.inl ⟨by simpa [poll, pollFlush, hpoll, hpoll'] using hcome, by rw [hcalls]⟩
      · exact Or.inr (hapart.cons _)
  · obtain ⟨later, hcalls⟩ := calls_flush_eq_cons flow s
    obtain ⟨later', hcalls'⟩ := calls_flush_eq_cons flow' s'
    right
    rw [hcalls, hcalls']
    refine apart_of_ne ?_ ?_ _ _
    · rfl
    · simpa using hsame

theorem parts_dispatch (submission : Submission V) (s : σ) (s' : σ') :
    Parts flow flow' (.dispatch submission) s s' := by
  by_cases hsame : (flow.pollReady s).1 = (flow'.pollReady s').1
  · rcases hready : flow.pollReady s with ⟨answer, t⟩
    rcases hready' : flow'.pollReady s' with ⟨answer', t'⟩
    obtain rfl : answer = answer' := by rwa [hready, hready'] at hsame
    rcases answer with _ | _ | _
    · left
      simp [poll, pollDispatch, calls, Flow.recorded_pollReady, hready, hready']
    · left
      simp [poll, pollDispatch, calls, Flow.recorded_pollReady, hready, hready']
    · by_cases htaken : (flow.startDispatch submission t).1 = (flow'.startDispatch submission t').1
      · rcases hstart : flow.startDispatch submission t with ⟨taken, u⟩
        rcases hstart' : flow'.startDispatch submission t' with ⟨taken', u'⟩
        obtain rfl : taken = taken' := by rwa [hstart, hstart'] at htaken
        rcases taken with _ | _
        · left
          simp [poll, pollDispatch, calls, Flow.recorded_pollReady, Flow.recorded_startDispatch,
            hready, hready', hstart, hstart']
        · unfold Parts
          rw [calls_dispatch hready hstart, calls_dispatch hready' hstart']
          rcases parts_flush flow flow' u u' with ⟨hcome, hcalls⟩ | hapart
          · refine Or.inl ⟨?_, by rw [hcalls]⟩
            simpa [poll, pollDispatch, hready, hready', hstart, hstart'] using hcome
          · exact Or.inr ((hapart.cons _).cons _)
      · obtain ⟨later, hcalls⟩ := calls_dispatch_eq_cons_cons flow s submission hready
        obtain ⟨later', hcalls'⟩ := calls_dispatch_eq_cons_cons flow' s' submission hready'
        right
        rw [hcalls, hcalls']
        refine (apart_of_ne ?_ ?_ _ _).cons _
        · rfl
        · simpa using htaken
  · obtain ⟨later, hcalls⟩ := calls_dispatch_eq_cons flow s submission
    obtain ⟨later', hcalls'⟩ := calls_dispatch_eq_cons flow' s' submission
    right
    rw [hcalls, hcalls']
    refine apart_of_ne ?_ ?_ _ _
    · rfl
    · simpa using hsame

theorem parts (stage : Stage V) (s : σ) (s' : σ') : stage.Parts flow flow' s s' := by
  cases stage with
  | dispatch submission => exact parts_dispatch flow flow' submission s s'
  | flush => exact parts_flush flow flow' s s'
  | await => exact parts_await flow flow' s s'

end Parting

end Stage

/-- How a flight lands depends only on how far its exchange comes. -/
theorem Flight.poll_fst_congr {flow : Flow V σ ε} {flow' : Flow V σ' ε} (flight : Flight V S)
    {s : σ} {s' : σ'} (hcome : (flight.stage.poll flow s).1 = (flight.stage.poll flow' s').1) :
    (flight.poll flow s).1 = (flight.poll flow' s').1 := by
  rcases hpoll : flight.stage.poll flow s with ⟨exchange, t⟩
  rcases hpoll' : flight.stage.poll flow' s' with ⟨exchange', t'⟩
  obtain rfl : exchange = exchange' := by rwa [hpoll, hpoll'] at hcome
  simp only [Flight.poll, hpoll, hpoll']
  rcases exchange with _ | _ | _ | reply
  · rfl
  · rfl
  · rfl
  · by_cases hticket : reply.ticket = flight.ticket <;> simp [hticket]

/-- A move of a run comes to the same with the same calls, or some call is answered differently. -/
theorem Run.parts [Resumes V S] (flow : Flow V σ ε) (flow' : Flow V σ' ε) (run : Run V S) (s : σ)
    (s' : σ') :
    ((run.step flow s).1 = (run.step flow' s').1 ∧ run.calls flow s = run.calls flow' s' ∧
        run.resumption flow s = run.resumption flow' s') ∨
      Apart (run.calls flow s) (run.calls flow' s') := by
  cases run using step_cases with
  | ended => exact Or.inl ⟨rfl, rfl, rfl⟩
  | closing =>
    rw [calls_close, calls_close]
    rcases hclose : flow.pollClose s with ⟨answer, t⟩
    rcases hclose' : flow'.pollClose s' with ⟨answer', t'⟩
    by_cases hsame : answer = answer'
    · subst hsame
      left
      rcases answer with _ | _ | _ <;> simp [step, close, hclose, hclose', resumption, handed?]
    · right
      refine apart_of_ne ?_ ?_ [] []
      · rfl
      · simpa using hsame
  | undertaking plan => exact Or.inl ⟨rfl, rfl, by cases plan <;> rfl⟩
  | driving flight =>
    rw [calls_flight, calls_flight]
    rcases flight.stage.parts flow flow' s s' with ⟨hcome, hcalls⟩ | hapart
    · have hlanding := flight.poll_fst_congr hcome
      refine Or.inl ⟨?_, hcalls, ?_⟩
      · simp [step, hlanding]
      · simp [resumption, handed?, hlanding]
    · exact Or.inr hapart

namespace Course

/-- Two courses are together, or their histories first differ in the answer to a call. -/
def Parting (c : Course V S σ ε) (c' : Course V S σ' ε) : Prop :=
  (c.run = c'.run ∧ c.history = c'.history) ∨
    ∃ past call call' later later', c.history = past ++ .call call :: later ∧
      c'.history = past ++ .call call' :: later' ∧ call.ask = call'.ask ∧ call ≠ call'

variable [Resumes V S] (flow : Flow V σ ε) (flow' : Flow V σ' ε)

theorem Parting.next {c : Course V S σ ε} {c' : Course V S σ' ε} (hparting : c.Parting c') :
    (c.next flow).Parting (c'.next flow') := by
  rcases hparting with ⟨hrun, hhistory⟩ | ⟨past, call, call', later, later', hc, hc', hask, hne⟩
  · obtain ⟨run, s, h⟩ := c
    obtain ⟨run', s', h'⟩ := c'
    obtain rfl : run = run' := hrun
    obtain rfl : h = h' := hhistory
    rw [next_eq, next_eq]
    rcases run.parts flow flow' s s' with
      ⟨hstep, hcalls, hresumption⟩ | ⟨past, call, call', later, later', hcalls, hcalls', hask, hne⟩
    · left
      simp [hstep, hcalls, hresumption]
    · right
      refine ⟨h ++ past.map .call, call, call',
        later.map .call ++ run.resumption flow s ++ (run.step flow s).1.1.returned,
        later'.map .call ++ run.resumption flow' s' ++ (run.step flow' s').1.1.returned,
        ?_, ?_, hask, hne⟩
      · simp [hcalls]
      · simp [hcalls']
  · obtain ⟨news, hnews⟩ := history_next flow c
    obtain ⟨news', hnews'⟩ := history_next flow' c'
    refine Or.inr ⟨past, call, call', later ++ news, later' ++ news', ?_, ?_, hask, hne⟩
    · rw [← hnews, hc]
      simp
    · rw [← hnews', hc']
      simp

/-- Two runs of one plan go together until some call is answered differently. -/
theorem parting_after (plan : Plan V S) (s : σ) (s' : σ') (n : ℕ) :
    (after flow plan s n).Parting (after flow' plan s' n) := by
  induction n with
  | zero => exact Or.inl ⟨rfl, rfl⟩
  | succ n ih =>
    rw [after_succ, after_succ]
    exact ih.next flow flow'

/-- What has happened up to a call happens over another flow that answers the calls before it in the
same way, and a call is made there. -/
theorem history_of_path {plan : Plan V S} {s t : σ} {s' : σ'} {n : ℕ}
    {past later : List (Happening V S ε)} {call : FlowCall V ε}
    (hhistory : (after flow' plan s' n).history = past ++ .call call :: later)
    (hpath : flow.Path s (callsIn past) t) :
    ∃ call₀ later₀, (after flow plan s n).history = past ++ .call call₀ :: later₀ := by
  rcases parting_after flow flow' plan s s' n with ⟨-, hsame⟩ |
    ⟨before, call₀, call', later₀, later', hbefore, hbefore', hask, hne⟩
  · exact ⟨call, later, hsame.trans hhistory⟩
  · rw [hhistory] at hbefore'
    rcases List.append_eq_append_iff.mp hbefore'
      with ⟨between, rfl, hlater⟩ | ⟨between, rfl, hlater⟩
    · rcases between with _ | ⟨happening, between⟩
      · exact ⟨call₀, later₀, by simpa using hbefore⟩
      · obtain ⟨rfl, -⟩ := List.cons_eq_cons.mp hlater
        exact ⟨call, between ++ .call call₀ :: later₀, by simp [hbefore]⟩
    · rcases between with _ | ⟨happening, between⟩
      · exact ⟨call₀, later₀, by simpa using hbefore⟩
      · -- The calls before it would have been answered differently.
        obtain ⟨rfl, -⟩ := List.cons_eq_cons.mp hlater
        have hown := path_after flow plan s n
        rw [hbefore, callsIn_append] at hown
        rw [callsIn_append] at hpath
        exact absurd (hown.unique hpath hask) hne

end Course

end Errand
