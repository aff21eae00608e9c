import Errand.Channel

/-!
A channel together with those who wait at it. Three things can be waited for, each by one party at
a time: a submission, room for a reply, and a reply. Every operation says who may go on because of
it; being told ends the waiting.
-/

set_option autoImplicit false

namespace Errand

/-- Who waits for something: the caller of an event loop, or one of its tasks. -/
inductive Party where
  | caller
  | task (id : Nat)
  deriving DecidableEq, Repr

structure Link (V : ValueTypes) where
  channel : Channel V
  /-- Who waits for a submission. -/
  awaitingSubmission : Option Party
  /-- Who waits for room among the replies. -/
  awaitingRoom : Option Party
  /-- Who waits for a reply. -/
  awaitingReply : Option Party

namespace Link

variable {V : ValueTypes} {α : Type}

def fresh (capacity : Nat) : Link V := ⟨.fresh capacity, none, none, none⟩

/-- A link at which nobody waits yet, if the channel can keep so many replies. -/
def ofCapacity (capacity : Nat) : Except Channel.RoomFault (Link V) :=
  if Channel.mostRoom < capacity then .error .excessive else .ok (.fresh capacity)

/-- The outcome of an operation, the party that may go on, and the link afterwards. -/
abbrev Outcome (V : ValueTypes) (α : Type) := α × Option Party × Link V

def dispatch (submission : Submission V) (link : Link V) :
    Outcome V (Except Channel.SendError Unit) :=
  match link.channel.dispatch submission with
  | (.error e, channel) => (.error e, none, { link with channel })
  | (.ok (), channel) =>
    (.ok (), link.awaitingSubmission, { link with channel, awaitingSubmission := none })

/-- Closes the sending half; the worker learns of it. -/
def closeSending (link : Link V) : Outcome V Unit :=
  if link.channel.sending then
    ((), link.awaitingSubmission,
      { link with channel := link.channel.closeSending, awaitingSubmission := none })
  else ((), none, link)

/-- Drops the collecting half; the worker learns of it. -/
def dropCollecting (link : Link V) : Outcome V Unit :=
  ((), link.awaitingRoom,
    { link with
      channel := link.channel.dropCollecting
      awaitingRoom := none
      awaitingReply := none })

/-- Drops the worker; the client learns of it. -/
def dropWorker (link : Link V) : Outcome V Unit :=
  ((), link.awaitingReply,
    { channel := link.channel.dropWorker
      awaitingSubmission := none
      awaitingRoom := none
      awaitingReply := none })

def take (who : Party) (link : Link V) : Outcome V (Poll (Option (Submission V))) :=
  match link.channel.take with
  | (.pending, channel) =>
    (.pending, none, { link with channel, awaitingSubmission := some who })
  | (.ready submission, channel) => (.ready submission, none, { link with channel })

def send (who : Party) (reply : Reply V) (link : Link V) : Outcome V (Poll Bool) :=
  match link.channel.send reply with
  | (.pending, channel) => (.pending, none, { link with channel, awaitingRoom := some who })
  | (.ready true, channel) =>
    (.ready true, link.awaitingReply, { link with channel, awaitingReply := none })
  | (.ready false, channel) => (.ready false, none, { link with channel })

def collect (who : Party) (link : Link V) : Outcome V (Poll (Option (Reply V))) :=
  match link.channel.collect with
  | (.pending, channel) => (.pending, none, { link with channel, awaitingReply := some who })
  | (.ready (some reply), channel) =>
    (.ready (some reply), link.awaitingRoom, { link with channel, awaitingRoom := none })
  | (.ready none, channel) => (.ready none, none, { link with channel })

end Link

end Errand
