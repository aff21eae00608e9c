import Errand.Flow
import Errand.Plan

/-!
Running a plan over a flow, one request at a time. What is left to do lies on a stack of tasks,
each a plan with the chain of steps that its values must still pass through. `Run.step` makes one
move: it takes the topmost task apart, drives the request in flight, or asks for the flow to be
closed when nothing is left.

A failed submission is an item of the run like any value. Every other error is its last item.
-/

set_option autoImplicit false

namespace Errand

/-- Why an item of a run is not a value. -/
inductive RunError (ε : Type) where
  /-- A submission was not answered by a value. -/
  | rejected (ticket : Ticket) (cause : Failure)
  /-- The flow did not take a submission, or did not close. -/
  | dispatch (source : ε)
  /-- The flow broke down before a reply. -/
  | collect (source : ε)
  /-- The flow replied to another submission than the one in flight. -/
  | desynchronized (expected received : Ticket)
  /-- A value had another type than the program promised. -/
  | mistyped

namespace RunError

variable {ε : Type}

/-- Whether the run ends with this error. -/
def isTerminal : RunError ε → Bool
  | rejected .. => false
  | _ => true

def text : RunError ε → String
  | rejected ticket cause =>
    "request " ++ ticket.text ++ " was not answered successfully: " ++ cause.text
  | dispatch _ => "executor flow failed to accept a submission"
  | collect _ => "executor flow failed to produce a reply"
  | desynchronized expected received =>
    "executor flow replied to " ++ received.text ++ " while " ++ expected.text
      ++ " was in flight"
  | mistyped => "a value had another type than the program promised"

end RunError

/-- A plan to be done, and the steps its values must pass through. -/
structure Task (V : ValueTypes) (S : Type) where
  plan : Plan V S
  chain : List S

/-- The submission in flight, and the steps the value of its answer must pass through. -/
structure Flight (V : ValueTypes) (S : Type) where
  ticket : Ticket
  stage : Stage V
  chain : List S

/-- What became of the submission in flight. -/
inductive Landing (V : ValueTypes) (S ε : Type) where
  | flying (flight : Flight V S)
  | failed (error : RunError ε)
  | landed (answer : Answer (Payload V))

variable {V : ValueTypes} {S σ ε : Type}

/-- Drives the submission in flight. The reply must carry its ticket. -/
def Flight.poll (flow : Flow V σ ε) (flight : Flight V S) (s : σ) : Landing V S ε × σ :=
  match flight.stage.poll flow s with
  | (.waiting stage, s) => (.flying { flight with stage }, s)
  | (.refused e, s) => (.failed (.dispatch e), s)
  | (.lost e, s) => (.failed (.collect e), s)
  | (.replied reply, s) =>
    if reply.ticket = flight.ticket then (.landed reply.answer, s)
    else (.failed (.desynchronized flight.ticket reply.ticket), s)

/-- The state of a run. -/
structure Run (V : ValueTypes) (S : Type) where
  /-- The topmost task comes first. -/
  tasks : List (Task V S)
  flight : Option (Flight V S)
  /-- How many submissions have been made, and the ticket of the next one. That they are fewer than
  2^64, so that a machine word can count them, is taken for granted. -/
  submitted : Nat
  finished : Bool

/-- What a run yields: a value, or an error in the place of one. -/
abbrev Item (V : ValueTypes) (ε : Type) := Except (RunError ε) (Payload V)

/-- The outcome of one move: to be followed by another, waiting for the flow, or an item, `none`
being the end. -/
inductive Turn (V : ValueTypes) (ε : Type) where
  | again
  | pending
  | item (item : Option (Item V ε))

namespace Run

def start (plan : Plan V S) : Run V S := ⟨[⟨plan, []⟩], none, 0, false⟩

/-- Leaves nothing to be done. -/
def finish (run : Run V S) : Run V S := { run with tasks := [], flight := none, finished := true }

/-- Hands a value to the first step of its chain, or yields it. -/
def deliver [Resumes V S] (value : Payload V) (chain : List S) (run : Run V S) :
    Turn V ε × Run V S :=
  match chain with
  | [] => (.item (some (.ok value)), run)
  | step :: chain => (.again, { run with tasks := ⟨resume step value, chain⟩ :: run.tasks })

/-- Goes on after the submission in flight has come as far as it could. -/
def land [Resumes V S] (flight : Flight V S) (run : Run V S) :
    Landing V S ε → Turn V ε × Run V S
  | .flying flight => (.pending, { run with flight := some flight })
  | .failed error => (.item (some (.error error)), run.finish)
  | .landed (.success value) => deliver value flight.chain { run with flight := none }
  | .landed .filtered => (.again, { run with flight := none })
  | .landed (.failure cause) =>
    (.item (some (.error (.rejected flight.ticket cause))), { run with flight := none })

/-- Takes a task off the stack, `rest` being the tasks below it. -/
def undertake [Resumes V S] (run : Run V S) (chain : List S) (rest : List (Task V S)) :
    Plan V S → Turn V ε × Run V S
  | .done value => deliver value chain { run with tasks := rest }
  | .empty => (.again, { run with tasks := rest })
  | .submit request =>
    let ticket : Ticket := ⟨run.submitted⟩
    (.again, { run with
      tasks := rest
      flight := some ⟨ticket, .dispatch ⟨ticket, request⟩, chain⟩
      submitted := run.submitted + 1 })
  | .sequence first steps =>
    (.again, { run with tasks := ⟨first, steps.reverse ++ chain⟩ :: rest })
  | .concat parts =>
    (.again, { run with tasks := parts.map (fun part ↦ ⟨part, chain⟩) ++ rest })
  | .mistyped => (.item (some (.error .mistyped)), run.finish)

/-- Asks for the flow to be closed, which is the last thing a run does. -/
def close (flow : Flow V σ ε) (run : Run V S) (s : σ) : (Turn V ε × Run V S) × σ :=
  match flow.pollClose s with
  | (.pending, s) => ((.pending, run), s)
  | (.ready (.ok ()), s) => ((.item none, run.finish), s)
  | (.ready (.error e), s) => ((.item (some (.error (.dispatch e))), run.finish), s)

/-- One move. -/
def step [Resumes V S] (flow : Flow V σ ε) (run : Run V S) (s : σ) :
    (Turn V ε × Run V S) × σ :=
  if run.finished then ((.item none, run), s)
  else match run.flight, run.tasks with
    | some flight, _ =>
      let (landing, s) := flight.poll flow s
      (land flight run landing, s)
    | none, ⟨plan, chain⟩ :: rest => (undertake run chain rest plan, s)
    | none, [] => close flow run s

end Run

end Errand
