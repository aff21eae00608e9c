import Errand.Link
import Errand.Retry
import Errand.Script
import Errand.Worker

/-!
The event loop: one thread, a clock that moves only when nothing else can, and the flows and tasks
that live on it. Its caller and its tasks are the parties that wait; `wake` lets one go on.
`EventLoop.flow` is a flow as a party sees it, `EventLoop.desk` a worker's end of a channel.

A timer goes off at its instant rounded up to a whole millisecond, and timers of the same
millisecond in the order in which they were set.

Whoever has a turn may take so many steps in it; a step is a submission or a reply taken, a reply
sent, or a sleep that is over. After them it is put off: everything it waits for has to wait until
the others have had their turns, and of those put off the last one goes on first.
-/

set_option autoImplicit false

namespace Errand

/-- Where a client dispatches and collects. -/
inductive Dock where
  | line (index : Nat)
  | link (index : Nat)
  | script
  deriving DecidableEq, Repr

/-- Why a call on a flow failed. -/
inductive FlowError where
  | loopback (cause : Loopback.Error)
  | undelivered (cause : Channel.SendError)
  /-- The worker is gone and everything has been collected. -/
  | stopped
  | scripted (message : String)
  deriving DecidableEq, Repr

def FlowError.text : FlowError → String
  | loopback cause => cause.text
  | undelivered cause => cause.text
  | stopped => Channel.stoppedText
  | scripted message => message

/-- What a task does. -/
inductive Job (V : ValueTypes) where
  /-- Serves a link with the service. -/
  | serve (link : Nat) (latency : Option Duration) (phase : Worker.Phase V)
  /-- Serves a link by way of another flow, retrying. -/
  | retry (link : Nat) (inner : Dock) (policy : Retry.Policy) (phase : Retry.Phase V)

structure Timer where
  /-- The millisecond at which the timer goes off. -/
  tick : Nat
  party : Party
  deriving DecidableEq, Repr

structure EventLoop (V : ValueTypes) (ω : Type) where
  /-- Milliseconds since the clock began. -/
  clock : Nat
  /-- The state of the service. -/
  service : ω
  /-- The routes that loopback lines have served. -/
  journal : Array Route
  lines : Array (Loopback.Line V)
  links : Array (Link V)
  script : Script V
  jobs : Array (Job V)
  /-- The tasks that can go on, the next one first. -/
  ready : List Nat
  /-- The task whose turn it is. -/
  running : Option Nat
  /-- Whether the running task shall have another turn. -/
  rerun : Bool
  /-- Whether the caller can go on. -/
  callerReady : Bool
  /-- The timers that are set, the oldest first. -/
  timers : List Timer
  /-- How many steps are left of the present turn. -/
  allowance : Nat
  /-- Who has been put off, the latest first. -/
  deferred : List Party
  events : Array Event

/-- How many steps one may take in a turn. -/
def stepsPerTurn : Nat := 128

/-- Nanoseconds in a millisecond. -/
def nanosPerTick : Nat := 1000000

/-- A service that is told the millisecond. -/
abbrev TimedService (V : ValueTypes) (ω : Type) := Nat → Service V ω

namespace EventLoop

variable {V : ValueTypes} {ω α : Type}

def start (service : ω) (cues : Call → List Cue) : EventLoop V ω where
  clock := 0
  service := service
  journal := #[]
  lines := #[]
  links := #[]
  script := .start cues
  jobs := #[]
  ready := []
  running := none
  rerun := false
  callerReady := false
  timers := []
  allowance := stepsPerTurn
  deferred := []
  events := #[]

/-- The present instant. -/
def now (loop : EventLoop V ω) : Nat := loop.clock * nanosPerTick

def log (event : Event) (loop : EventLoop V ω) : EventLoop V ω :=
  { loop with events := loop.events.push event }

/-! ### Waiting -/

/-- Lets a party go on. A task gets one turn however often it is woken before it; the running task
gets another one. -/
def wake (party : Party) (loop : EventLoop V ω) : EventLoop V ω :=
  match party with
  | .caller => { loop with callerReady := true }
  | .task id =>
    if loop.running = some id then { loop with rerun := true }
    else if loop.ready.contains id then loop
    else { loop with ready := loop.ready ++ [id] }

/-- Waking a party touches nothing but who can go on. -/
theorem exists_wake_eq (party : Party) (loop : EventLoop V ω) :
    ∃ callerReady rerun ready, loop.wake party = { loop with callerReady, rerun, ready } := by
  cases party with
  | caller => exact ⟨true, loop.rerun, loop.ready, rfl⟩
  | task id =>
    simp only [wake]
    split
    · exact ⟨loop.callerReady, true, loop.ready, rfl⟩
    · split
      · exact ⟨loop.callerReady, loop.rerun, loop.ready, rfl⟩
      · exact ⟨loop.callerReady, loop.rerun, loop.ready ++ [id], rfl⟩

def wakeAll (parties : List Party) (loop : EventLoop V ω) : EventLoop V ω :=
  parties.foldl (fun loop party ↦ loop.wake party) loop

/-- Puts a party off. -/
def defer (who : Party) (loop : EventLoop V ω) : EventLoop V ω :=
  if loop.deferred.head? = some who then loop
  else { loop with deferred := who :: loop.deferred }

/-- Lets those go on who were put off. -/
def wakeDeferred (loop : EventLoop V ω) : EventLoop V ω :=
  { loop with deferred := [] }.wakeAll loop.deferred

/-- Waits for something that takes a step of the turn once it is there. -/
def paced (who : Party) (operation : EventLoop V ω → Poll α × EventLoop V ω)
    (loop : EventLoop V ω) : Poll α × EventLoop V ω :=
  if loop.allowance = 0 then (.pending, loop.defer who)
  else
    match operation loop with
    | (.pending, loop) => (.pending, loop)
    | (.ready a, loop) => (.ready a, { loop with allowance := loop.allowance - 1 })

/-- The millisecond at which a timer for an instant goes off. -/
def tickOf (instant : Nat) : Nat := (instant + (nanosPerTick - 1)) / nanosPerTick

/-- Sets a timer for an instant that is yet to come. -/
def setTimer (who : Party) (instant : Nat) (loop : EventLoop V ω) :
    Poll Unit × EventLoop V ω :=
  let timer : Timer := ⟨tickOf instant, who⟩
  if timer.tick ≤ loop.clock then (.ready (), loop)
  else if loop.timers.contains timer then (.pending, loop)
  else (.pending, { loop with timers := loop.timers ++ [timer] })

/-- Waits for an instant. -/
def sleepUntil (who : Party) (instant : Nat) : EventLoop V ω → Poll Unit × EventLoop V ω :=
  paced who (setTimer who instant)

/-- Takes back the timers of a party. -/
def cancelTimers (who : Party) (loop : EventLoop V ω) : EventLoop V ω :=
  { loop with timers := loop.timers.filter (·.party ≠ who) }

/-! ### Flows and desks -/

/-- Carries out an operation on a link and lets the party go on that it names. -/
def onLink (index : Nat) (absent : α) (operation : Link V → Link.Outcome V α)
    (loop : EventLoop V ω) : α × EventLoop V ω :=
  match loop.links[index]? with
  | none => (absent, loop)
  | some link =>
    let (outcome, party, link) := operation link
    (outcome, { loop with links := loop.links.setIfInBounds index link }.wakeAll party.toList)

/-- Sets up a link. -/
def openLink (capacity : Nat) (loop : EventLoop V ω) :
    Except Channel.RoomFault (Nat × EventLoop V ω) := do
  let link ← Link.ofCapacity capacity
  .ok (loop.links.size, { loop with links := loop.links.push link })

/-- A call of the script; one that is pending wakes its party at once. -/
def onScript (who : Party) (outcome : Poll (Except String α)) (script : Script V)
    (loop : EventLoop V ω) : Poll (Except FlowError α) × EventLoop V ω :=
  let loop := { loop with script }
  match outcome with
  | .pending => (.pending, loop.wake who)
  | .ready (.ok a) => (.ready (.ok a), loop)
  | .ready (.error message) => (.ready (.error (.scripted message)), loop)

def pollReady (who : Party) (dock : Dock) (loop : EventLoop V ω) :
    Poll (Except FlowError Unit) × EventLoop V ω :=
  match dock with
  | .line index =>
    (.ready (((loop.lines[index]?).getD .fresh).ready.mapError .loopback), loop)
  | .link index =>
    (.ready (((loop.links[index]?).getD (.fresh 0)).channel.ready.mapError .undelivered), loop)
  | .script =>
    let (outcome, script) := loop.script.poll .ready
    loop.onScript who outcome script

def startDispatch (service : TimedService V ω) (dock : Dock) (submission : Submission V)
    (loop : EventLoop V ω) : Except FlowError Unit × EventLoop V ω :=
  match dock with
  | .line index =>
    let line := (loop.lines[index]?).getD .fresh
    let (outcome, line, journal, state) :=
      line.dispatch (service loop.clock) submission loop.journal loop.service
    (outcome.mapError .loopback,
      { loop with lines := loop.lines.setIfInBounds index line, journal, service := state })
  | .link index =>
    let (outcome, loop) := loop.onLink index (.error .closed) (Link.dispatch submission)
    (outcome.mapError .undelivered, loop)
  | .script =>
    let (outcome, script) := loop.script.dispatch submission
    (outcome.mapError .scripted, { loop with script })

def pollFlush (who : Party) (dock : Dock) (loop : EventLoop V ω) :
    Poll (Except FlowError Unit) × EventLoop V ω :=
  match dock with
  | .line _ | .link _ => (.ready (.ok ()), loop)
  | .script =>
    let (outcome, script) := loop.script.poll .flush
    loop.onScript who outcome script

def pollClose (who : Party) (dock : Dock) (loop : EventLoop V ω) :
    Poll (Except FlowError Unit) × EventLoop V ω :=
  match dock with
  | .line index =>
    (.ready (.ok ()), { loop with lines := loop.lines.modify index Loopback.Line.close })
  | .link index =>
    let ((), loop) := loop.onLink index () Link.closeSending
    (.ready (.ok ()), loop)
  | .script =>
    let (outcome, script) := loop.script.poll .close
    loop.onScript who outcome script

def pollReply (service : TimedService V ω) (who : Party) (dock : Dock) (loop : EventLoop V ω) :
    Poll (Except FlowError (Reply V)) × EventLoop V ω :=
  match dock with
  | .line index =>
    let (outcome, line) := ((loop.lines[index]?).getD .fresh).collect
    (.ready (outcome.mapError .loopback),
      { loop with lines := loop.lines.setIfInBounds index line })
  | .link index =>
    match loop.paced who (onLink index (.ready none) (Link.collect who)) with
    | (.pending, loop) => (.pending, loop)
    | (.ready none, loop) => (.ready (.error .stopped), loop)
    | (.ready (some reply), loop) => (.ready (.ok reply), loop)
  | .script =>
    let (outcome, script, state) := loop.script.reply (service loop.clock) loop.service
    { loop with service := state }.onScript who outcome script

/-- The flow at a dock, as a party sees it. -/
def flow (service : TimedService V ω) (who : Party) (dock : Dock) :
    Flow V (EventLoop V ω) FlowError where
  pollReady := pollReady who dock
  startDispatch := startDispatch service dock
  pollFlush := pollFlush who dock
  pollClose := pollClose who dock
  pollReply := pollReply service who dock

/-- A worker's end of a link, as a party sees it. -/
def desk (who : Party) (index : Nat) : Desk V (EventLoop V ω) where
  next := paced who (onLink index (.ready none) (Link.take who))
  reply reply := paced who (onLink index (.ready false) (Link.send who reply))
  now := now
  sleepUntil := sleepUntil who
  log := log

/-- Forgets the routes that loopback lines have served. -/
def clearJournal (loop : EventLoop V ω) : EventLoop V ω := { loop with journal := #[] }

/-! ### Letting go -/

/-- Drops the sending half of the flow at a dock. -/
def dropSending (dock : Dock) (loop : EventLoop V ω) : EventLoop V ω :=
  match dock with
  | .link index => (loop.onLink index () Link.closeSending).2
  | .line _ | .script => loop

/-- Drops the collecting half of the flow at a dock. -/
def dropCollecting (dock : Dock) (loop : EventLoop V ω) : EventLoop V ω :=
  match dock with
  | .link index => (loop.onLink index () Link.dropCollecting).2
  | .line _ | .script => loop

/-- Drops the worker's end of a link. -/
def dropWorker (index : Nat) (loop : EventLoop V ω) : EventLoop V ω :=
  (loop.onLink index () Link.dropWorker).2

end EventLoop

end Errand
