import Errand.Loopback

/-!
A flow that follows a script: each of its five calls takes the next cue from a list of its own, and
behaves well once the list has run out. Submissions queue up, and a reply answers the oldest of
them through a service. A log keeps the calls made.
-/

set_option autoImplicit false

namespace Errand

/-- What a call is to do. -/
inductive Cue where
  | well
  | wait
  | fail (message : String)
  /-- A reply without a value, which the service is not asked for. -/
  | filtered
  /-- A reply under another ticket. -/
  | under (ticket : Ticket)
  deriving DecidableEq, Repr

inductive Call where
  | ready
  | start
  | flush
  | reply
  | close
  deriving DecidableEq, Repr

def Call.name : Call → String
  | ready => "ready"
  | start => "start"
  | flush => "flush"
  | reply => "reply"
  | close => "close"

structure Script (V : ValueTypes) where
  cues : Call → List Cue
  queue : List (Submission V)
  calls : Array String

namespace Script

variable {V : ValueTypes} {ω : Type}

def start (cues : Call → List Cue) : Script V := ⟨cues, [], #[]⟩

def noSubmission : String := "nothing was submitted"

/-- Takes the next cue of a call, and enters the call into the log. -/
def next (call : Call) (script : Script V) : Cue × Script V :=
  let cue := (script.cues call).headD .well
  let outcome := match cue with
    | .wait => "pending"
    | .fail _ => "err"
    | .well | .filtered | .under _ => "ok"
  (cue, { script with
    cues := fun other ↦ if other = call then (script.cues call).tail else script.cues other
    calls := script.calls.push (call.name ++ ": " ++ outcome) })

/-- A call that only succeeds, waits or fails. -/
def poll (call : Call) (script : Script V) : Poll (Except String Unit) × Script V :=
  match script.next call with
  | (.wait, script) => (.pending, script)
  | (.fail message, script) => (.ready (.error message), script)
  | (_, script) => (.ready (.ok ()), script)

/-- Queues a submission. -/
def dispatch (submission : Submission V) (script : Script V) : Except String Unit × Script V :=
  match script.next .start with
  | (.fail message, script) => (.error message, script)
  | (_, script) => (.ok (), { script with queue := script.queue ++ [submission] })

/-- Replies to the oldest submission. -/
def reply (service : Service V ω) (script : Script V) (w : ω) :
    Poll (Except String (Reply V)) × Script V × ω :=
  match script.next .reply with
  | (.wait, script) => (.pending, script, w)
  | (.fail message, script) => (.ready (.error message), script, w)
  | (cue, script) =>
    match script.queue with
    | [] => (.ready (.error noSubmission), script, w)
    | submission :: queue =>
      let script := { script with queue }
      match cue with
      | .filtered => (.ready (.ok ⟨submission.ticket, .filtered⟩), script, w)
      | .under ticket =>
        let (outcome, w) := service submission w
        (.ready (.ok ⟨ticket, (submission.settle outcome).answer⟩), script, w)
      | _ =>
        let (outcome, w) := service submission w
        (.ready (.ok (submission.settle outcome)), script, w)

end Script

end Errand
