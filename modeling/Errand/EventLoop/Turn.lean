import Errand.EventLoop

/-!
A turn of a task: its job goes through phases until it has to wait or stops. A job that has stopped
lets go of all it holds. `EventLoop.await` gives turns to the tasks that can go on, in the order in
which they were woken, until the caller has what it waits for; when nobody can go on, the clock
jumps to the next timer. The caller's turn lasts from one wait to the next.
-/

set_option autoImplicit false

namespace Errand

variable {V : ValueTypes} {ω τ α : Type}

/-- The service as the jobs of an event loop ask it. -/
def EventLoop.ask (service : TimedService V ω) : Service V (EventLoop V ω) :=
  fun submission loop ↦
    let (outcome, state) := service loop.clock submission loop.service
    (outcome, { loop with service := state })

namespace Job

/-- Goes through one phase. -/
def advance (service : TimedService V ω) (id : Nat) (job : Job V) (loop : EventLoop V ω) :
    (Move × Job V) × EventLoop V ω :=
  match job with
  | .serve link latency phase =>
    let ((move, phase), loop) :=
      Worker.advance (EventLoop.desk (.task id) link) (EventLoop.ask service) latency phase loop
    ((move, .serve link latency phase), loop)
  | .retry link inner policy phase =>
    let ((move, phase), loop) :=
      Retry.advance (EventLoop.desk (.task id) link) (EventLoop.flow service (.task id) inner)
        FlowError.text policy phase loop
    ((move, .retry link inner policy phase), loop)

/-- Lets go of what a job holds. -/
def release (job : Job V) (loop : EventLoop V ω) : EventLoop V ω :=
  match job with
  | .serve link _ _ => loop.dropWorker link
  | .retry link inner _ _ =>
    ((loop.dropCollecting inner).dropSending inner).dropWorker link

/-- Goes through phases until the job waits or stops, or has used up its share of the turn, after
which it asks for another one. -/
def turn (service : TimedService V ω) (id : Nat) :
    Nat → Job V → EventLoop V ω → Job V × EventLoop V ω
  | 0, job, loop => (job, loop.wake (.task id))
  | share + 1, job, loop =>
    match advance service id job loop with
    | ((.again, job), loop) => turn service id share job loop
    | ((.waiting, job), loop) => (job, loop)
    | ((.stopped, job), loop) => (job, job.release loop)

end Job

namespace EventLoop

/-- How many phases a task may go through in one turn: the steps of the turn, each with the phases
that take none before it. -/
def share : Nat := 4 * (stepsPerTurn + 1)

/-- Gives a task a turn of so many phases at most. -/
def runFor (service : TimedService V ω) (phases id : Nat) (loop : EventLoop V ω) :
    EventLoop V ω :=
  match loop.jobs[id]? with
  | none => loop
  | some job =>
    let (job, loop) := job.turn service id phases
      { loop with running := some id, rerun := false, allowance := stepsPerTurn }
    let again := loop.rerun
    let loop := { loop with
      jobs := loop.jobs.setIfInBounds id job, running := none, rerun := false }
    if again then loop.wake (.task id) else loop

/-- Gives a task its turn. -/
def run (service : TimedService V ω) (id : Nat) (loop : EventLoop V ω) : EventLoop V ω :=
  runFor service share id loop

/-- How many turns are given before the caller may look again. -/
def round : Nat := 61

/-- Gives turns until none can be given or the round is over; whether none can be given. -/
def runReady (service : TimedService V ω) : Nat → EventLoop V ω → Bool × EventLoop V ω
  | 0, loop => (false, loop)
  | turns + 1, loop =>
    match loop.ready with
    | [] => (true, loop)
    | id :: rest => runReady service turns (run service id { loop with ready := rest })

/-- The millisecond at which the next timer goes off. -/
def nextTick? (loop : EventLoop V ω) : Option Nat := (loop.timers.map Timer.tick).min?

/-- Moves the clock on to a millisecond and wakes those whose time has come. -/
def passTo (tick : Nat) (loop : EventLoop V ω) : EventLoop V ω :=
  let (due, later) := loop.timers.partition fun timer ↦ decide (timer.tick ≤ tick)
  { loop with clock := max loop.clock tick, timers := later }.wakeAll (due.map Timer.party)

/-- Moves the clock to the next timer. -/
def jump (loop : EventLoop V ω) : EventLoop V ω :=
  match loop.nextTick? with
  | none => loop
  | some tick => loop.passTo tick

/-- One round: turns for the tasks, then another chance for those put off, and a jump of the clock
if nobody can go on. -/
def turnOver (service : TimedService V ω) (loop : EventLoop V ω) : EventLoop V ω :=
  match runReady service round loop with
  | (true, loop) =>
    if loop.callerReady || !loop.deferred.isEmpty then loop.wakeDeferred else loop.jump
  | (false, loop) => loop.wakeDeferred

/-- Lets the caller look for what it waits for, whenever it has been woken. -/
def awaitWoken (service : TimedService V ω)
    (poll : τ → EventLoop V ω → (Poll α × τ) × EventLoop V ω) :
    Nat → τ → EventLoop V ω → (Option α × τ) × EventLoop V ω
  | 0, t, loop => ((none, t), loop)
  | rounds + 1, t, loop =>
    if loop.callerReady then
      match poll t { loop with callerReady := false, allowance := stepsPerTurn } with
      | ((.ready a, t), loop) => ((some a, t), loop)
      | ((.pending, t), loop) => awaitWoken service poll rounds t (turnOver service loop)
    else awaitWoken service poll rounds t (turnOver service loop)

/-- Waits for something, for so many rounds at most. The caller looks for it at once. -/
def await (service : TimedService V ω)
    (poll : τ → EventLoop V ω → (Poll α × τ) × EventLoop V ω) (rounds : Nat)
    (t : τ) (loop : EventLoop V ω) : (Option α × τ) × EventLoop V ω :=
  match poll t loop with
  | ((.ready a, t), loop) => ((some a, t), loop)
  | ((.pending, t), loop) => awaitWoken service poll rounds t (turnOver service loop)

/-- Waits for something until an instant; `none` says that it did not come in time. -/
def awaitUntil (service : TimedService V ω)
    (poll : τ → EventLoop V ω → (Poll α × τ) × EventLoop V ω) (instant rounds : Nat)
    (t : τ) (loop : EventLoop V ω) : (Option α × τ) × EventLoop V ω :=
  let ((answer, t), loop) := loop.await service
    (fun t loop ↦
      match poll t loop with
      | ((.ready a, t), loop) => ((.ready (some a), t), loop)
      | ((.pending, t), loop) =>
        match loop.sleepUntil .caller instant with
        | (.pending, loop) => ((.pending, t), loop)
        | (.ready (), loop) => ((.ready none, t), loop))
    rounds t
  ((answer.join, t), loop.cancelTimers .caller)

/-- Lets time pass until an instant. -/
def pass (service : TimedService V ω) (instant rounds : Nat) (loop : EventLoop V ω) :
    EventLoop V ω :=
  (loop.await service
    (fun () loop ↦ let (outcome, loop) := loop.sleepUntil .caller instant; ((outcome, ()), loop))
    rounds ()).2

end EventLoop

end Errand
