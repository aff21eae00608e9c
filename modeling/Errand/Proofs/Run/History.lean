import Errand.Stream
import Mathlib

/-!
What happens in a run, in order: the calls made on the flow with their answers, the continuations
called, and what the polls return. `Flow.recorded` keeps the calls, and `Course.next` makes one move
of a run and enters what happened into the history. A poll is the moves up to its return, so
`Course.after` also reaches into polls that never return.

Every move is read call by call (`next_dispatch`, `next_flush`, `next_await`, `next_close`): a call
that is answered well leads to the move as it would have been had it begun after the call.
-/

set_option autoImplicit false

namespace Errand

/-- A call made on a flow, with its answer. -/
inductive FlowCall (V : ValueTypes) (ε : Type) where
  | ready (answer : Poll (Except ε Unit))
  | dispatch (submission : Submission V) (answer : Except ε Unit)
  | flush (answer : Poll (Except ε Unit))
  | close (answer : Poll (Except ε Unit))
  | reply (answer : Poll (Except ε (Reply V)))

/-- What happens in a run. -/
inductive Happening (V : ValueTypes) (S ε : Type) where
  | call (call : FlowCall V ε)
  /-- A continuation is called with a value. -/
  | resumed (step : S) (value : Payload V)
  /-- A poll returns. -/
  | returned (outcome : Poll (Option (Item V ε)))

variable {V : ValueTypes} {S σ ε : Type}

/-! ### Recording -/

namespace Flow

/-- A flow that keeps the calls made on it. -/
def recorded (flow : Flow V σ ε) : Flow V (σ × List (FlowCall V ε)) ε where
  pollReady := fun (s, record) ↦
    let (answer, s) := flow.pollReady s
    (answer, s, record ++ [.ready answer])
  startDispatch := fun submission (s, record) ↦
    let (answer, s) := flow.startDispatch submission s
    (answer, s, record ++ [.dispatch submission answer])
  pollFlush := fun (s, record) ↦
    let (answer, s) := flow.pollFlush s
    (answer, s, record ++ [.flush answer])
  pollClose := fun (s, record) ↦
    let (answer, s) := flow.pollClose s
    (answer, s, record ++ [.close answer])
  pollReply := fun (s, record) ↦
    let (answer, s) := flow.pollReply s
    (answer, s, record ++ [.reply answer])

variable (flow : Flow V σ ε) (s : σ) (record : List (FlowCall V ε))

theorem recorded_pollReady : flow.recorded.pollReady (s, record) =
    ((flow.pollReady s).1, (flow.pollReady s).2, record ++ [.ready (flow.pollReady s).1]) := rfl

theorem recorded_startDispatch (submission : Submission V) :
    flow.recorded.startDispatch submission (s, record) =
      ((flow.startDispatch submission s).1, (flow.startDispatch submission s).2,
        record ++ [.dispatch submission (flow.startDispatch submission s).1]) := rfl

theorem recorded_pollFlush : flow.recorded.pollFlush (s, record) =
    ((flow.pollFlush s).1, (flow.pollFlush s).2, record ++ [.flush (flow.pollFlush s).1]) := rfl

theorem recorded_pollClose : flow.recorded.pollClose (s, record) =
    ((flow.pollClose s).1, (flow.pollClose s).2, record ++ [.close (flow.pollClose s).1]) := rfl

theorem recorded_pollReply : flow.recorded.pollReply (s, record) =
    ((flow.pollReply s).1, (flow.pollReply s).2, record ++ [.reply (flow.pollReply s).1]) := rfl

end Flow

namespace Stage

variable (flow : Flow V σ ε) (s : σ) (record : List (FlowCall V ε))

theorem pollAwait_recorded :
    pollAwait flow.recorded (s, record) =
      ((pollAwait flow s).1, (pollAwait flow s).2,
        record ++ (pollAwait flow.recorded (s, [])).2.2) := by
  rcases ha : flow.pollReply s with ⟨_ | _ | _, s'⟩ <;>
    simp [pollAwait, Flow.recorded_pollReply, ha]

theorem pollFlush_recorded :
    pollFlush flow.recorded (s, record) =
      ((pollFlush flow s).1, (pollFlush flow s).2,
        record ++ (pollFlush flow.recorded (s, [])).2.2) := by
  rcases ha : flow.pollFlush s with ⟨_ | _ | _, s'⟩
  · simp [pollFlush, Flow.recorded_pollFlush, ha]
  · simp [pollFlush, Flow.recorded_pollFlush, ha]
  · simp only [pollFlush, Flow.recorded_pollFlush, ha]
    rw [pollAwait_recorded flow s' (record ++ _), pollAwait_recorded flow s' ([] ++ _)]
    simp

theorem pollDispatch_recorded (submission : Submission V) :
    pollDispatch flow.recorded submission (s, record) =
      ((pollDispatch flow submission s).1, (pollDispatch flow submission s).2,
        record ++ (pollDispatch flow.recorded submission (s, [])).2.2) := by
  rcases ha : flow.pollReady s with ⟨_ | _ | _, s'⟩
  · simp [pollDispatch, Flow.recorded_pollReady, ha]
  · simp [pollDispatch, Flow.recorded_pollReady, ha]
  · rcases hb : flow.startDispatch submission s' with ⟨_ | _, s''⟩
    · simp [pollDispatch, Flow.recorded_pollReady, Flow.recorded_startDispatch, ha, hb]
    · simp only [pollDispatch, Flow.recorded_pollReady, Flow.recorded_startDispatch, ha, hb]
      rw [pollFlush_recorded flow s'' (record ++ _ ++ _),
        pollFlush_recorded flow s'' ([] ++ _ ++ _)]
      simp

/-- The calls that driving an exchange makes. -/
def calls (flow : Flow V σ ε) (stage : Stage V) (s : σ) : List (FlowCall V ε) :=
  (stage.poll flow.recorded (s, [])).2.2

/-- Recording changes nothing but the record, which is continued. -/
theorem poll_recorded (stage : Stage V) :
    stage.poll flow.recorded (s, record) =
      ((stage.poll flow s).1, (stage.poll flow s).2, record ++ stage.calls flow s) := by
  cases stage with
  | dispatch submission => exact pollDispatch_recorded flow s record submission
  | flush => exact pollFlush_recorded flow s record
  | await => exact pollAwait_recorded flow s record

theorem calls_await (flow : Flow V σ ε) (s : σ) :
    calls flow .await s = [.reply (flow.pollReply s).1] := by
  rcases hreply : flow.pollReply s with ⟨_ | _ | _, s'⟩ <;>
    simp [calls, poll, pollAwait, Flow.recorded_pollReply, hreply]

/-- A flow that has flushed is asked for a reply. -/
theorem calls_flush {flow : Flow V σ ε} {s s' : σ}
    (hflush : flow.pollFlush s = (.ready (.ok ()), s')) :
    calls flow .flush s = [.flush (.ready (.ok ()))] ++ calls flow .await s' := by
  simp only [calls, poll, pollFlush, Flow.recorded_pollFlush, hflush]
  rw [pollAwait_recorded]
  rfl

/-- A flow that has taken a submission is flushed. -/
theorem calls_dispatch {flow : Flow V σ ε} {submission : Submission V} {s s' s'' : σ}
    (hready : flow.pollReady s = (.ready (.ok ()), s'))
    (hstart : flow.startDispatch submission s' = (.ok (), s'')) :
    calls flow (.dispatch submission) s =
      [.ready (.ready (.ok ())), .dispatch submission (.ok ())] ++ calls flow .flush s'' := by
  simp only [calls, poll, pollDispatch, Flow.recorded_pollReady, Flow.recorded_startDispatch,
    hready, hstart]
  rw [pollFlush_recorded]
  rfl

end Stage

theorem Flight.poll_recorded (flow : Flow V σ ε) (flight : Flight V S) (s : σ)
    (record : List (FlowCall V ε)) :
    flight.poll flow.recorded (s, record) =
      ((flight.poll flow s).1, (flight.poll flow s).2, record ++ flight.stage.calls flow s) := by
  simp only [Flight.poll, Stage.poll_recorded]
  rcases flight.stage.poll flow s with ⟨_ | _ | _ | reply, s'⟩
  · simp
  · simp
  · simp
  · by_cases ht : reply.ticket = flight.ticket <;> simp [ht]

namespace Run

/-- A run is over, or it asks for its flow to be closed, takes its topmost task apart, or drives its
submission in flight. -/
@[elab_as_elim]
theorem step_cases {motive : Run V S → Prop}
    (ended : ∀ tasks flight k, motive ⟨tasks, flight, k, true⟩)
    (closing : ∀ k, motive ⟨[], none, k, false⟩)
    (undertaking : ∀ plan chain rest k, motive ⟨⟨plan, chain⟩ :: rest, none, k, false⟩)
    (driving : ∀ flight tasks k, motive ⟨tasks, some flight, k, false⟩) (run : Run V S) :
    motive run := by
  obtain ⟨tasks, flight, k, finished⟩ := run
  cases finished with
  | true => exact ended tasks flight k
  | false =>
    rcases flight with _ | flight
    · rcases tasks with _ | ⟨⟨plan, chain⟩, rest⟩
      · exact closing k
      · exact undertaking plan chain rest k
    · exact driving flight tasks k

/-- The calls that a move makes. -/
def calls [Resumes V S] (flow : Flow V σ ε) (run : Run V S) (s : σ) : List (FlowCall V ε) :=
  (run.step flow.recorded (s, [])).2.2

theorem calls_flight [Resumes V S] {flow : Flow V σ ε} {tasks : List (Task V S)}
    {flight : Flight V S} {k : ℕ} {s : σ} :
    calls flow ⟨tasks, some flight, k, false⟩ s = flight.stage.calls flow s := by
  simp [calls, step, Flight.poll_recorded]

theorem calls_close [Resumes V S] (flow : Flow V σ ε) (k : ℕ) (s : σ) :
    calls flow ⟨([] : List (Task V S)), none, k, false⟩ s = [.close (flow.pollClose s).1] := by
  rcases hclose : flow.pollClose s with ⟨_ | _ | _, s'⟩ <;>
    simp [calls, step, close, Flow.recorded_pollClose, hclose]

/-- Recording changes nothing about a move but the record, which is continued. -/
theorem step_recorded [Resumes V S] (flow : Flow V σ ε) (run : Run V S) (s : σ)
    (record : List (FlowCall V ε)) :
    run.step flow.recorded (s, record) =
      ((run.step flow s).1, (run.step flow s).2, record ++ run.calls flow s) := by
  cases run using step_cases with
  | ended => simp [step, calls]
  | closing k =>
    rcases hclose : flow.pollClose s with ⟨_ | _ | _, s'⟩ <;>
      simp [step, calls, close, Flow.recorded_pollClose, hclose]
  | undertaking => simp [step, calls]
  | driving flight => simp [step, calls, Flight.poll_recorded]

end Run

/-! ### Courses -/

/-- What a turn lets its poll return, if it ends the poll. -/
def Turn.returned : Turn V ε → List (Happening V S ε)
  | .again => []
  | .pending => [.returned .pending]
  | .item entry => [.returned (.ready entry)]

namespace Run

/-- The value that the next move of a run hands on, with the chain it is handed to. -/
def handed? (flow : Flow V σ ε) (run : Run V S) (s : σ) : Option (Payload V × List S) :=
  if run.finished then none
  else match run.flight, run.tasks with
    | some flight, _ =>
      match (flight.poll flow s).1 with
      | .landed (.success value) => some (value, flight.chain)
      | _ => none
    | none, ⟨.done value, chain⟩ :: _ => some (value, chain)
    | none, _ => none

/-- The call of a continuation in the next move of a run, if there is one. -/
def resumption (flow : Flow V σ ε) (run : Run V S) (s : σ) : List (Happening V S ε) :=
  match run.handed? flow s with
  | some (value, step :: _) => [.resumed step value]
  | _ => []

/-- The record of continuations called is complete: what a continuation does with a value matters
to a move only if the continuation is called with it. -/
theorem step_eq_of_resume_eq (R R' : Resumes V S) (flow : Flow V σ ε) (run : Run V S) (s : σ)
    (hresume : ∀ value step chain, run.handed? flow s = some (value, step :: chain) →
      R.resume step value = R'.resume step value) :
    @step V S σ ε R flow run s = @step V S σ ε R' flow run s := by
  have hdeliver : ∀ value chain run', run.handed? flow s = some (value, chain) →
      @deliver V S ε R value chain run' = @deliver V S ε R' value chain run' := by
    intro value chain run' hhanded
    cases chain with
    | nil => rfl
    | cons step chain => simp [deliver, hresume value step chain hhanded]
  cases run using step_cases with
  | ended => simp [step]
  | closing => rfl
  | undertaking plan chain rest k =>
    cases plan with
    | done value =>
      simp only [step, undertake, Bool.false_eq_true, if_false]
      rw [hdeliver]
      simp [handed?]
    | _ => rfl
  | driving flight =>
    rcases hpoll : flight.poll flow s with ⟨_ | _ | answer, s'⟩
    · simp [step, hpoll, land]
    · simp [step, hpoll, land]
    · cases answer with
      | success value =>
        simp only [step, hpoll, land, Bool.false_eq_true, if_false]
        rw [hdeliver]
        simp [handed?, hpoll]
      | filtered => simp [step, hpoll, land]
      | failure cause => simp [step, hpoll, land]

end Run

/-- A run on its way: its state, that of the flow, and what has happened. -/
structure Course (V : ValueTypes) (S σ ε : Type) where
  run : Run V S
  state : σ
  history : List (Happening V S ε)

namespace Course

def start (plan : Plan V S) (s : σ) : Course V S σ ε := ⟨.start plan, s, []⟩

/-- Makes one move. -/
def next [Resumes V S] (flow : Flow V σ ε) (c : Course V S σ ε) : Course V S σ ε :=
  let ((turn, run), state, calls) := c.run.step flow.recorded (c.state, [])
  ⟨run, state,
    c.history ++ (calls.map .call ++ c.run.resumption flow c.state ++ turn.returned)⟩

theorem next_eq [Resumes V S] (flow : Flow V σ ε) (c : Course V S σ ε) :
    c.next flow =
      ⟨(c.run.step flow c.state).1.2, (c.run.step flow c.state).2,
        c.history ++ ((c.run.calls flow c.state).map .call ++ c.run.resumption flow c.state
          ++ (c.run.step flow c.state).1.1.returned)⟩ := by
  simp [next, Run.step_recorded]

/-- The run of a plan after so many moves. -/
def after [Resumes V S] (flow : Flow V σ ε) (plan : Plan V S) (s : σ) (moves : ℕ) :
    Course V S σ ε :=
  (next flow)^[moves] (start plan s)

theorem after_succ [Resumes V S] (flow : Flow V σ ε) (plan : Plan V S) (s : σ) (n : ℕ) :
    after flow plan s (n + 1) = (after flow plan s n).next flow :=
  Function.iterate_succ_apply' _ _ _

/-- What is so at the start, and what every move keeps so, is so all through a run. -/
theorem after_induction [Resumes V S] {flow : Flow V σ ε} {plan : Plan V S} {s : σ}
    {P : Course V S σ ε → Prop} (hstart : P (start plan s)) (hnext : ∀ c, P c → P (c.next flow))
    (n : ℕ) : P (after flow plan s n) := by
  induction n with
  | zero => exact hstart
  | succ n ih =>
    rw [after_succ]
    exact hnext _ ih

/-! ### What a move does to a course -/

/-- Enters a call, which left the flow in a new state. -/
def called (call : FlowCall V ε) (state : σ) (c : Course V S σ ε) : Course V S σ ε :=
  { c with state, history := c.history ++ [.call call] }

/-- Enters a return. -/
def returning (outcome : Poll (Option (Item V ε))) (c : Course V S σ ε) : Course V S σ ε :=
  { c with history := c.history ++ [.returned outcome] }

/-- Ends with an error. -/
def broken (error : RunError ε) (c : Course V S σ ε) : Course V S σ ε :=
  { c with run := c.run.finish }.returning (.ready (some (.error error)))

/-- Hands a value to the first step of its chain, or yields it. -/
def handed [Resumes V S] (value : Payload V) (chain : List S) (c : Course V S σ ε) :
    Course V S σ ε :=
  match chain with
  | [] => c.returning (.ready (some (.ok value)))
  | step :: chain =>
    { c with
      run := { c.run with tasks := ⟨resume step value, chain⟩ :: c.run.tasks }
      history := c.history ++ [.resumed step value] }

/-- Goes on with the answer to a submission. -/
def landed [Resumes V S] (ticket : Ticket) (chain : List S) (c : Course V S σ ε) :
    Answer (Payload V) → Course V S σ ε
  | .success value => c.handed value chain
  | .filtered => c
  | .failure cause => c.returning (.ready (some (.error (.rejected ticket cause))))

section Moves

variable [Resumes V S] {flow : Flow V σ ε} {tasks : List (Task V S)} {chain : List S} {k : ℕ}
  {s : σ} {h : List (Happening V S ε)}

/-- A run that is over returns `none`. -/
theorem next_finished {flight : Option (Flight V S)} :
    next flow ⟨⟨tasks, flight, k, true⟩, s, h⟩ =
      returning (.ready none) ⟨⟨tasks, flight, k, true⟩, s, h⟩ := by
  simp [next, Run.step, Run.resumption, Run.handed?, Turn.returned, returning]

theorem next_done {value : Payload V} :
    next flow ⟨⟨⟨.done value, chain⟩ :: tasks, none, k, false⟩, s, h⟩ =
      handed value chain ⟨⟨tasks, none, k, false⟩, s, h⟩ := by
  cases chain <;>
    simp [next, Run.step, Run.undertake, Run.deliver, Run.resumption, Run.handed?, Turn.returned,
      handed, returning]

theorem next_empty :
    next flow ⟨⟨⟨.empty, chain⟩ :: tasks, none, k, false⟩, s, h⟩ =
      ⟨⟨tasks, none, k, false⟩, s, h⟩ := by
  simp [next, Run.step, Run.undertake, Run.resumption, Run.handed?, Turn.returned]

theorem next_submit {request : Request (Payload V)} :
    next flow ⟨⟨⟨.submit request, chain⟩ :: tasks, none, k, false⟩, s, h⟩ =
      ⟨⟨tasks, some ⟨⟨k⟩, .dispatch ⟨⟨k⟩, request⟩, chain⟩, k + 1, false⟩, s, h⟩ := by
  simp [next, Run.step, Run.undertake, Run.resumption, Run.handed?, Turn.returned]

theorem next_sequence {first : Plan V S} {steps : List S} :
    next flow ⟨⟨⟨.sequence first steps, chain⟩ :: tasks, none, k, false⟩, s, h⟩ =
      ⟨⟨⟨first, steps.reverse ++ chain⟩ :: tasks, none, k, false⟩, s, h⟩ := by
  simp [next, Run.step, Run.undertake, Run.resumption, Run.handed?, Turn.returned]

theorem next_concat {parts : List (Plan V S)} :
    next flow ⟨⟨⟨.concat parts, chain⟩ :: tasks, none, k, false⟩, s, h⟩ =
      ⟨⟨parts.map (fun part ↦ ⟨part, chain⟩) ++ tasks, none, k, false⟩, s, h⟩ := by
  simp [next, Run.step, Run.undertake, Run.resumption, Run.handed?, Turn.returned]

theorem next_mistyped :
    next flow ⟨⟨⟨.mistyped, chain⟩ :: tasks, none, k, false⟩, s, h⟩ =
      broken .mistyped ⟨⟨tasks, none, k, false⟩, s, h⟩ := by
  simp [next, Run.step, Run.undertake, Run.resumption, Run.handed?, Turn.returned, broken,
    returning, Run.finish]

/-- A run with nothing left asks for its flow to be closed. -/
theorem next_close :
    next flow ⟨⟨[], none, k, false⟩, s, h⟩ =
      match flow.pollClose s with
      | (.pending, s') =>
        (called (.close .pending) s' ⟨⟨[], none, k, false⟩, s, h⟩).returning .pending
      | (.ready (.error e), s') =>
        (called (.close (.ready (.error e))) s' ⟨⟨[], none, k, false⟩, s, h⟩).broken (.dispatch e)
      | (.ready (.ok ()), s') =>
        (called (.close (.ready (.ok ()))) s' ⟨⟨[], none, k, true⟩, s, h⟩).returning
          (.ready none) := by
  rcases ha : flow.pollClose s with ⟨_ | _ | _, s'⟩ <;>
    simp [next, Run.step, Run.close, Flow.recorded, ha, Run.resumption, Run.handed?, Turn.returned,
      called, broken, returning, Run.finish]

variable {ticket : Ticket}

/-- A run that awaits a reply asks for it. -/
theorem next_await :
    next flow ⟨⟨tasks, some ⟨ticket, .await, chain⟩, k, false⟩, s, h⟩ =
      match flow.pollReply s with
      | (.pending, s') =>
        (called (.reply .pending) s'
          ⟨⟨tasks, some ⟨ticket, .await, chain⟩, k, false⟩, s, h⟩).returning .pending
      | (.ready (.error e), s') =>
        (called (.reply (.ready (.error e))) s' ⟨⟨tasks, none, k, false⟩, s, h⟩).broken (.collect e)
      | (.ready (.ok reply), s') =>
        let c := called (.reply (.ready (.ok reply))) s' ⟨⟨tasks, none, k, false⟩, s, h⟩
        if reply.ticket = ticket then c.landed ticket chain reply.answer
        else c.broken (.desynchronized ticket reply.ticket) := by
  rcases ha : flow.pollReply s with ⟨_ | e | reply, s'⟩
  · simp [next, Run.step, Flight.poll, Stage.poll, Stage.pollAwait, Flow.recorded, ha, Run.land,
      Run.resumption, Run.handed?, Turn.returned, called, returning]
  · simp [next, Run.step, Flight.poll, Stage.poll, Stage.pollAwait, Flow.recorded, ha, Run.land,
      Run.resumption, Run.handed?, Turn.returned, called, broken, returning, Run.finish]
  · by_cases ht : reply.ticket = ticket
    · rcases hr : reply.answer with value | _ | cause
      · cases chain <;>
          simp [next, Run.step, Flight.poll, Stage.poll, Stage.pollAwait, Flow.recorded, ha, ht, hr,
            Run.land, Run.deliver, Run.resumption, Run.handed?, Turn.returned, called, landed,
            handed, returning]
      · simp [next, Run.step, Flight.poll, Stage.poll, Stage.pollAwait, Flow.recorded, ha, ht, hr,
          Run.land, Run.resumption, Run.handed?, Turn.returned, called, landed]
      · simp [next, Run.step, Flight.poll, Stage.poll, Stage.pollAwait, Flow.recorded, ha, ht, hr,
          Run.land, Run.resumption, Run.handed?, Turn.returned, called, landed, returning]
    · simp [next, Run.step, Flight.poll, Stage.poll, Stage.pollAwait, Flow.recorded, ha, ht,
        Run.land, Run.resumption, Run.handed?, Turn.returned, called, broken, returning, Run.finish]

/-- A move depends on the stage only through what driving the exchange brings. -/
theorem next_flight_congr {stage stage' : Stage V} {s' : σ} {made : List (FlowCall V ε)}
    (hpoll : stage.poll flow s = stage'.poll flow s')
    (hcalls : stage.calls flow s = made ++ stage'.calls flow s') :
    next flow ⟨⟨tasks, some ⟨ticket, stage, chain⟩, k, false⟩, s, h⟩ =
      next flow
        ⟨⟨tasks, some ⟨ticket, stage', chain⟩, k, false⟩, s', h ++ made.map .call⟩ := by
  simp only [next_eq, Run.step, Run.calls_flight, hcalls, Flight.poll, hpoll, Run.resumption,
    Run.handed?]
  rcases stage'.poll flow s' with ⟨_ | _ | _ | reply, s''⟩
  · simp [Run.land]
  · simp [Run.land, Run.finish]
  · simp [Run.land, Run.finish]
  · by_cases ht : reply.ticket = ticket
    · rcases hr : reply.answer with value | _ | cause
      · cases chain <;> simp [ht, hr, Run.land, Run.deliver]
      · simp [ht, hr, Run.land]
      · simp [ht, hr, Run.land]
    · simp [ht, Run.land, Run.finish]

/-- A run that flushes its flow awaits the reply in the same move. -/
theorem next_flush :
    next flow ⟨⟨tasks, some ⟨ticket, .flush, chain⟩, k, false⟩, s, h⟩ =
      match flow.pollFlush s with
      | (.pending, s') =>
        (called (.flush .pending) s'
          ⟨⟨tasks, some ⟨ticket, .flush, chain⟩, k, false⟩, s, h⟩).returning .pending
      | (.ready (.error e), s') =>
        (called (.flush (.ready (.error e))) s' ⟨⟨tasks, none, k, false⟩, s, h⟩).broken
          (.dispatch e)
      | (.ready (.ok ()), s') =>
        next flow (called (.flush (.ready (.ok ()))) s'
          ⟨⟨tasks, some ⟨ticket, .await, chain⟩, k, false⟩, s, h⟩) := by
  rcases ha : flow.pollFlush s with ⟨_ | e | _, s'⟩
  · simp [next, Run.step, Flight.poll, Stage.poll, Stage.pollFlush, Flow.recorded, ha, Run.land,
      Run.resumption, Run.handed?, Turn.returned, called, returning]
  · simp [next, Run.step, Flight.poll, Stage.poll, Stage.pollFlush, Flow.recorded, ha, Run.land,
      Run.resumption, Run.handed?, Turn.returned, called, broken, returning, Run.finish]
  · have hpoll : Stage.poll flow .flush s = Stage.poll flow .await s' := by
      simp [Stage.poll, Stage.pollFlush, ha]
    exact next_flight_congr hpoll (Stage.calls_flush ha)

/-- A run that finds its flow ready dispatches and flushes in the same move. -/
theorem next_dispatch {submission : Submission V} :
    next flow ⟨⟨tasks, some ⟨ticket, .dispatch submission, chain⟩, k, false⟩, s, h⟩ =
      match flow.pollReady s with
      | (.pending, s') =>
        (called (.ready .pending) s'
          ⟨⟨tasks, some ⟨ticket, .dispatch submission, chain⟩, k, false⟩, s, h⟩).returning .pending
      | (.ready (.error e), s') =>
        (called (.ready (.ready (.error e))) s' ⟨⟨tasks, none, k, false⟩, s, h⟩).broken
          (.dispatch e)
      | (.ready (.ok ()), s') =>
        match flow.startDispatch submission s' with
        | (.error e, s'') =>
          ((called (.ready (.ready (.ok ()))) s' ⟨⟨tasks, none, k, false⟩, s, h⟩).called
            (.dispatch submission (.error e)) s'').broken (.dispatch e)
        | (.ok (), s'') =>
          next flow ((called (.ready (.ready (.ok ()))) s'
            ⟨⟨tasks, some ⟨ticket, .flush, chain⟩, k, false⟩, s, h⟩).called
              (.dispatch submission (.ok ())) s'') := by
  rcases ha : flow.pollReady s with ⟨_ | e | _, s'⟩
  · simp [next, Run.step, Flight.poll, Stage.poll, Stage.pollDispatch, Flow.recorded, ha, Run.land,
      Run.resumption, Run.handed?, Turn.returned, called, returning]
  · simp [next, Run.step, Flight.poll, Stage.poll, Stage.pollDispatch, Flow.recorded, ha, Run.land,
      Run.resumption, Run.handed?, Turn.returned, called, broken, returning, Run.finish]
  · rcases hb : flow.startDispatch submission s' with ⟨e | _, s''⟩
    · simp [next, Run.step, Flight.poll, Stage.poll, Stage.pollDispatch, Flow.recorded, ha, hb,
        Run.land, Run.resumption, Run.handed?, Turn.returned, called, broken, returning, Run.finish]
    · have hpoll : Stage.poll flow (.dispatch submission) s = Stage.poll flow .flush s'' := by
        simp [Stage.poll, Stage.pollDispatch, ha, hb]
      rw [next_flight_congr hpoll (Stage.calls_dispatch ha hb)]
      simp [called, hb]

end Moves

end Course

/-! ### Polls are moves -/

/-- The calls among what has happened. -/
def callsIn (history : List (Happening V S ε)) : List (FlowCall V ε) :=
  history.filterMap fun
    | .call call => some call
    | _ => none

theorem callsIn_append (h h' : List (Happening V S ε)) :
    callsIn (h ++ h') = callsIn h ++ callsIn h' :=
  List.filterMap_append

theorem callsIn_map_call (calls : List (FlowCall V ε)) :
    callsIn (calls.map (Happening.call (S := S))) = calls := by
  simp [callsIn, List.filterMap_map]

namespace Run

/-- A poll makes one move, and goes on unless the move ends it. -/
theorem pollNext_of_step [Resumes V S] [Terminating V S] {flow : Flow V σ ε} {run run' : Run V S}
    {s s' : σ} {turn : Turn V ε} (hstep : run.step flow s = ((turn, run'), s')) :
    run.pollNext flow s = match turn with
      | .again => run'.pollNext flow s'
      | .pending => ((.pending, run'), s')
      | .item entry => ((.ready entry, run'), s') := by
  rw [pollNext]
  split <;> rename_i heq <;> rw [hstep] at heq <;> cases heq <;> rfl

/-- What a move makes happen before it lets its poll return. -/
def deeds [Resumes V S] (flow : Flow V σ ε) (run : Run V S) (s : σ) : List (Happening V S ε) :=
  (run.calls flow s).map .call ++ run.resumption flow s

theorem callsIn_deeds [Resumes V S] (flow : Flow V σ ε) (run : Run V S) (s : σ) :
    callsIn (run.deeds flow s) = run.calls flow s := by
  have hresumption : callsIn (run.resumption flow s) = [] := by
    unfold resumption
    split <;> rfl
  rw [deeds, callsIn_append, callsIn_map_call, hresumption, List.append_nil]

theorem returned_notMem_deeds [Resumes V S] (flow : Flow V σ ε) (run : Run V S) (s : σ)
    (outcome : Poll (Option (Item V ε))) : .returned outcome ∉ run.deeds flow s := by
  have hresumption : .returned outcome ∉ run.resumption flow s := by
    unfold resumption
    split <;> simp
  simp [deeds, hresumption]

/-- Handing on a value returns that value or nothing. -/
theorem eq_ok_of_deliver [Resumes V S] {value : Payload V} {chain : List S} {run : Run V S}
    {item : Option (Item V ε)} (hitem : (deliver value chain run).1 = .item item) :
    item = some (.ok value) := by
  cases chain with
  | nil => exact (Turn.item.inj hitem).symm
  | cons step chain => cases hitem

/-- A move that finds the end finishes its run. -/
theorem finished_of_item_none [Resumes V S] {flow : Flow V σ ε} {run : Run V S} {s : σ}
    (hnone : (run.step flow s).1.1 = .item none) : (run.step flow s).1.2.finished = true := by
  have hdeliver : ∀ value chain (run : Run V S),
      (deliver (ε := ε) value chain run).1 ≠ .item none := by
    intro value chain run hitem
    cases eq_ok_of_deliver hitem
  cases run using step_cases with
  | ended => rfl
  | closing =>
    rcases hclose : flow.pollClose s with ⟨_ | _ | _, s'⟩ <;> simp_all [step, close, finish]
  | undertaking plan => cases plan <;> simp_all [step, undertake]
  | driving flight =>
    rcases hpoll : flight.poll flow s with ⟨_ | _ | answer, s'⟩
    · simp [step, hpoll, land] at hnone
    · simp [step, hpoll, land] at hnone
    · cases answer <;> simp_all [step, land]

end Run

namespace Course

/-! ### What has happened stays -/

theorem history_next [Resumes V S] (flow : Flow V σ ε) (c : Course V S σ ε) :
    c.history <+: (c.next flow).history := by
  rw [next_eq]
  exact List.prefix_append _ _

theorem history_iterate [Resumes V S] (flow : Flow V σ ε) (c : Course V S σ ε) (n : ℕ) :
    c.history <+: ((next flow)^[n] c).history := by
  induction n with
  | zero => exact List.prefix_rfl
  | succ n ih =>
    rw [Function.iterate_succ_apply']
    exact ih.trans (history_next flow _)

theorem after_add [Resumes V S] (flow : Flow V σ ε) (plan : Plan V S) (s : σ) (m n : ℕ) :
    after flow plan s (m + n) = (next flow)^[n] (after flow plan s m) := by
  rw [after, Nat.add_comm, Function.iterate_add_apply, after]

theorem history_after_mono [Resumes V S] (flow : Flow V σ ε) (plan : Plan V S) (s : σ) {m n : ℕ}
    (hmn : m ≤ n) : (after flow plan s m).history <+: (after flow plan s n).history := by
  obtain ⟨k, rfl⟩ := Nat.exists_eq_add_of_le hmn
  rw [after_add]
  exact history_iterate flow _ k

/-! ### Runs that are over -/

theorem next_of_finished [Resumes V S] (flow : Flow V σ ε) {c : Course V S σ ε}
    (hfinished : c.run.finished = true) : c.next flow = c.returning (.ready none) := by
  obtain ⟨⟨tasks, flight, k, finished⟩, s, h⟩ := c
  obtain rfl : finished = true := hfinished
  exact next_finished

/-- A run that is over only returns `none`, and its flow is left alone. -/
theorem iterate_of_finished [Resumes V S] (flow : Flow V σ ε) {c : Course V S σ ε}
    (hfinished : c.run.finished = true) (n : ℕ) :
    (next flow)^[n] c =
      { c with history := c.history ++ List.replicate n (.returned (.ready none)) } := by
  induction n generalizing c with
  | zero => simp
  | succ n ih =>
    have hover : (c.returning (.ready none)).run.finished = true := hfinished
    rw [Function.iterate_succ_apply, next_of_finished flow hfinished, ih hover]
    simp [returning, List.replicate_succ]

/-- Only a run that is over returns `none`. -/
theorem finished_of_returned_none [Resumes V S] (flow : Flow V σ ε) (plan : Plan V S) (s : σ)
    (n : ℕ) : .returned (.ready none) ∈ (after flow plan s n).history →
      (after flow plan s n).run.finished = true := by
  refine after_induction (P := fun c : Course V S σ ε ↦
    .returned (.ready none) ∈ c.history → c.run.finished = true) ?_ ?_ n
  · intro hnone
    simp [start] at hnone
  · intro c ih hnone
    by_cases hfinished : c.run.finished = true
    · rw [next_of_finished flow hfinished]
      exact hfinished
    · rw [next_eq] at hnone ⊢
      rcases List.mem_append.mp hnone with hbefore | hnow
      · exact absurd (ih hbefore) hfinished
      · rcases List.mem_append.mp hnow with hdeed | hreturned
        · exact absurd hdeed (Run.returned_notMem_deeds flow _ _ _)
        · refine Run.finished_of_item_none ?_
          rcases hturn : (c.run.step flow c.state).1.1 with _ | _ | item
          · simp [hturn, Turn.returned] at hreturned
          · simp [hturn, Turn.returned] at hreturned
          · simp_all [Turn.returned]

end Course

end Errand
