import Errand.Flow

/-!
The channel between a client and a worker: submissions queue up without a bound, replies only up to
a capacity. Either side may go away. The client closes its sending half or drops the collecting
one; a worker that is gone takes no more submissions and sends no more replies, but what it sent
before is still collected.
-/

set_option autoImplicit false

namespace Errand

structure Channel (V : ValueTypes) where
  submissions : List (Submission V)
  /-- Whether the client may still dispatch. -/
  sending : Bool
  /-- Whether the client may still collect. -/
  collecting : Bool
  /-- Whether there is a worker. -/
  working : Bool
  replies : List (Reply V)
  capacity : Nat

namespace Channel

inductive SendError where
  /-- The client closed its sending half. -/
  | closed
  /-- The worker is gone. -/
  | undelivered (ticket : Ticket)
  deriving DecidableEq, Repr

def SendError.text : SendError → String
  | closed => "submission dispatched after the flow was closed"
  | undelivered ticket =>
    "worker task has stopped, submission " ++ ticket.text ++ " was not delivered"

/-- The only way for collecting to fail: the worker is gone and everything has been collected. -/
def stoppedText : String := "worker task stopped before replying"

/-- The most replies that a channel can be asked to keep. -/
def mostRoom : Nat := Nat.pow 2 61 - 1

/-- Why there is no channel with the room asked for. -/
inductive RoomFault where
  /-- A channel was to keep no reply at all. -/
  | channel
  /-- The channels of an executor were. -/
  | executor
  | excessive
  deriving DecidableEq, Repr

def RoomFault.message : RoomFault → String
  | channel => "mpsc bounded channel requires buffer > 0"
  | executor => "reply buffer must be nonzero"
  | excessive =>
    "a semaphore may not have more than MAX_PERMITS permits (" ++ toString mostRoom ++ ")"

/-- Checks that there is room for a reply. -/
def room (fault : RoomFault) (capacity : Nat) : Except RoomFault Nat :=
  if capacity = 0 then .error fault else .ok capacity

variable {V : ValueTypes}

/-- A channel for at least one reply at a time. -/
def fresh (capacity : Nat) : Channel V := ⟨[], true, true, true, [], capacity⟩

def ready (c : Channel V) : Except SendError Unit :=
  if c.sending then .ok () else .error .closed

def dispatch (submission : Submission V) (c : Channel V) : Except SendError Unit × Channel V :=
  if !c.sending then (.error .closed, c)
  else if !c.working then (.error (.undelivered submission.ticket), c)
  else (.ok (), { c with submissions := c.submissions ++ [submission] })

def closeSending (c : Channel V) : Channel V := { c with sending := false }

/-- Drops the collecting half, and the replies that wait there. -/
def dropCollecting (c : Channel V) : Channel V := { c with collecting := false, replies := [] }

/-- Drops the worker, and the submissions it has not taken. -/
def dropWorker (c : Channel V) : Channel V := { c with working := false, submissions := [] }

/-- The worker takes the oldest submission; `none` says that no more will come. -/
def take (c : Channel V) : Poll (Option (Submission V)) × Channel V :=
  match c.submissions with
  | submission :: rest => (.ready (some submission), { c with submissions := rest })
  | [] => (if c.sending then .pending else .ready none, c)

/-- The worker sends a reply; `false` says that nobody collects. It waits while the queue is
full. -/
def send (reply : Reply V) (c : Channel V) : Poll Bool × Channel V :=
  if !c.collecting then (.ready false, c)
  else if c.replies.length < c.capacity then
    (.ready true, { c with replies := c.replies ++ [reply] })
  else (.pending, c)

/-- The client takes the oldest reply; `none` says that no more will come. -/
def collect (c : Channel V) : Poll (Option (Reply V)) × Channel V :=
  match c.replies with
  | reply :: rest => (.ready (some reply), { c with replies := rest })
  | [] => (if c.working then .pending else .ready none, c)

end Channel

end Errand
