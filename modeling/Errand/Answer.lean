import Errand.Payload
import Errand.Request

/-!
What crosses a flow: submissions going in, replies coming out. A submission is a request with the
ticket that its reply must carry; `Submission.answer` turns the response to it into an answer.
-/

set_option autoImplicit false

namespace Errand

/-- The number of a submission within its run, from zero on. That a run makes fewer than 2^64 of
them, so that a machine word can count them, is taken for granted. -/
structure Ticket where
  number : Nat
  deriving DecidableEq, Repr

def Ticket.text (t : Ticket) : String := "#" ++ toString t.number

/-- Why a submission brought no value. -/
inductive Failure where
  /-- The service answered with a status that is not a success. -/
  | http (status : UInt16) (message : String)
  /-- The service asked for fewer requests. -/
  | rateLimited (everywhere : Bool) (retryAfter : Option Duration)
  | decode (error : DecodeError)
  /-- The request never reached the service, or its answer was lost. -/
  | dropped (reason : String)

def Failure.text : Failure → String
  | http status message =>
    "service responded with status " ++ toString status.toNat ++ ": " ++ message
  | rateLimited everywhere _ => s!"rate limited (global: {everywhere})"
  | decode error => error.text
  | dropped reason => "request dropped: " ++ reason

inductive Answer (α : Type) where
  | success (value : α)
  /-- The response was fine but carries no value. -/
  | filtered
  | failure (cause : Failure)

namespace Answer

variable {α β : Type}

def isSuccess : Answer α → Bool
  | success _ => true
  | filtered | failure _ => false

def value? : Answer α → Option α
  | success value => some value
  | filtered | failure _ => none

def map (f : α → β) : Answer α → Answer β
  | success value => success (f value)
  | filtered => filtered
  | failure cause => failure cause

end Answer

structure Submission (V : ValueTypes) where
  ticket : Ticket
  request : Request (Payload V)

structure Reply (V : ValueTypes) where
  ticket : Ticket
  answer : Answer (Payload V)

/-- The answer that a response is to a request: successes are decoded, status 429 is a rate limit,
and any other status is a failure with the body as its message. -/
def Request.answer {α : Type} (request : Request α) (response : Response) : Answer α :=
  if response.isSuccess then
    match request.decode response with
    | .ok (some value) => .success value
    | .ok none => .filtered
    | .error error => .failure (.decode error)
  else if response.status = 429 then
    .failure (.rateLimited response.isGlobalLimit response.retryAfter?)
  else .failure (.http response.status response.text)

namespace Submission

variable {V : ValueTypes}

def route (s : Submission V) : Route := s.request.route

/-- The reply to a submission that the service answered. -/
def reply (s : Submission V) (response : Response) : Reply V :=
  ⟨s.ticket, s.request.answer response⟩

/-- The reply to a submission that failed without an answer. -/
def fail (s : Submission V) (cause : Failure) : Reply V := ⟨s.ticket, .failure cause⟩

/-- The reply to a submission, whatever became of it. -/
def settle (s : Submission V) : Except Failure Response → Reply V
  | .ok response => s.reply response
  | .error cause => s.fail cause

end Submission

end Errand
