import Errand.EventLoop.Turn
import Errand.Executor
import Errand.Stream

/-!
Sessions: an event loop as its caller uses it. The caller opens streams of programs, each over a
flow of its own, asks them for items or waits for them, and lets time pass. What does not come
within the caller's patience is given up.
-/

set_option autoImplicit false

namespace Errand

/-- A stream of a session. -/
structure Stream (V : ValueTypes) where
  run : Run V (Step V)
  dock : Dock
  /-- Whether errors are items of the stream. -/
  withErrors : Bool
  dropped : Bool

structure Session (V : ValueTypes) (ω : Type) where
  loop : EventLoop V ω
  service : TimedService V ω
  streams : Array (Stream V)
  /-- How much of the script's log has been read. -/
  callsRead : Nat
  /-- How much of the event log has been read. -/
  eventsRead : Nat

namespace Session

variable {V : ValueTypes} {ω τ α : Type}

abbrev Act (V : ValueTypes) (ω α : Type) := StateM (Session V ω) α

def start (service : TimedService V ω) (state : ω) (cues : Call → List Cue) : Session V ω :=
  ⟨.start state cues, service, #[], 0, 0⟩

/-- How long the caller waits for anything, in nanoseconds. -/
def patience : Nat := Nat.pow 10 7 * nanosPerSecond

/-- How many rounds of the event loop are followed at most. -/
def rounds : Nat := Nat.pow 10 12

def onLoop (f : EventLoop V ω → α × EventLoop V ω) : Act V ω α :=
  modifyGet fun s ↦
    let (a, loop) := f s.loop
    (a, { s with loop })

/-- The flow at a dock, as the caller sees it. -/
def flow (s : Session V ω) (dock : Dock) : Flow V (EventLoop V ω) FlowError :=
  EventLoop.flow s.service .caller dock

/-- Waits for something; `none` says that it was given up. -/
def await (poll : τ → EventLoop V ω → (Poll α × τ) × EventLoop V ω) (t : τ) :
    Act V ω (Option α × τ) := do
  let service := (← get).service
  onLoop fun loop ↦ loop.awaitUntil service poll (loop.now + patience) rounds t

/-- Waits for what a call on the loop brings. -/
def awaitCall (call : EventLoop V ω → Poll α × EventLoop V ω) : Act V ω (Option α) := do
  let (answer, ()) ← await
    (fun () loop ↦ let (outcome, loop) := call loop; ((outcome, ()), loop)) ()
  return answer

/-- Lets time pass. -/
def sleep (d : Duration) : Act V ω Unit := do
  let service := (← get).service
  onLoop fun loop ↦
    ((), loop.pass service ((after? loop.now d).getD (loop.now + Worker.longSleep)) rounds)

/-! ### Flows -/

/-- Dispatches a submission once the flow is ready for it. -/
def dispatch (flow : Flow V (EventLoop V ω) FlowError) (s : Submission V)
    (loop : EventLoop V ω) : Poll (Except FlowError Unit) × EventLoop V ω :=
  match flow.pollReady loop with
  | (.pending, loop) => (.pending, loop)
  | (.ready (.error e), loop) => (.ready (.error e), loop)
  | (.ready (.ok ()), loop) =>
    let (outcome, loop) := flow.startDispatch s loop
    (.ready outcome, loop)

/-! ### Streams -/

/-- An item of a stream, or its end. -/
abbrev Entry (α : Type) := Option (Except (RunError FlowError) α)

/-- Opens a stream of a program over the flow at a dock. -/
def addStream [Carried V α] (program : Program V α) (withErrors : Bool) (dock : Dock) :
    Act V ω Unit :=
  modify fun s ↦ { s with streams := s.streams.push ⟨program.start, dock, withErrors, false⟩ }

/-- Asks a stream for its next item. -/
def pollStream [Carried V α] (flow : Flow V (EventLoop V ω) FlowError) (withErrors : Bool)
    (run : Run V (Step V)) (loop : EventLoop V ω) :
    (Poll (Entry α) × Run V (Step V)) × EventLoop V ω :=
  if withErrors then Program.pollItem α flow run loop
  else
    match Program.pollResult α flow run loop with
    | ((.pending, run), loop) => ((.pending, run), loop)
    | ((.ready value, run), loop) => ((.ready (value.map .ok), run), loop)

def setRun (k : Nat) (run : Run V (Step V)) : Act V ω Unit :=
  modify fun s ↦ { s with streams := s.streams.modify k fun stream ↦ { stream with run } }

/-- Waits for the next item of a stream. -/
def next [Carried V α] (k : Nat) (stream : Stream V) : Act V ω (Option (Entry α)) := do
  let flow := (← get).flow stream.dock
  let (entry, run) ← await (pollStream flow stream.withErrors) stream.run
  setRun k run
  return entry

/-- Asks a stream for its next item once. -/
def poll [Carried V α] (k : Nat) (stream : Stream V) : Act V ω (Poll (Entry α)) := do
  let flow := (← get).flow stream.dock
  let (entry, run) ← onLoop (pollStream flow stream.withErrors stream.run)
  setRun k run
  return entry

/-- Waits for up to so many items of a stream; whether its end was reached. -/
def collect [Carried V α] (k : Nat) :
    Nat → Array (Except (RunError FlowError) α) →
      Act V ω (Array (Except (RunError FlowError) α) × Bool)
  | 0, found => return (found, false)
  | count + 1, found => do
    match (← get).streams[k]? with
    | none => return (found, true)
    | some stream =>
      match ← next k stream with
      | none => return (found, false)
      | some none => return (found, true)
      | some (some entry) => collect k count (found.push entry)

/-- Drops a stream along with its flow. -/
def drop (k : Nat) (stream : Stream V) : Act V ω Unit := do
  onLoop fun loop ↦ ((), (loop.dropSending stream.dock).dropCollecting stream.dock)
  modify fun s ↦
    { s with streams := s.streams.modify k fun stream ↦ { stream with dropped := true } }

/-! ### Logs -/

/-- The calls of the script since they were last asked for. -/
def newCalls : Act V ω (List String) :=
  modifyGet fun s ↦
    (s.loop.script.calls.toList.drop s.callsRead,
      { s with callsRead := s.loop.script.calls.size })

/-- The events since they were last asked for. -/
def newEvents : Act V ω (List Event) :=
  modifyGet fun s ↦
    (s.loop.events.toList.drop s.eventsRead, { s with eventsRead := s.loop.events.size })

end Session

end Errand
