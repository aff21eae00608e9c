import Errand.Answer
import Errand.Duration

/-!
What the tasks of an executor report about their work.
-/

set_option autoImplicit false

namespace Errand

inductive Event where
  | serving (ticket : Ticket) (route : Route)
  | failed (ticket : Ticket) (cause : Failure)
  | uncollected (ticket : Ticket)
  | brokeDown (ticket : Ticket) (error : String)
  | retrying (ticket : Ticket) (route : Route) (cause : Failure) (retries : Nat)
      (delay : Duration)
  | gaveUp (ticket : Ticket)
  | unclosed (error : String)

namespace Event

def level : Event → String
  | serving .. | uncollected .. | unclosed .. => "DEBUG"
  | failed .. | brokeDown .. => "ERROR"
  | retrying .. | gaveUp .. => "WARN"

def message : Event → String
  | serving .. => "serving request"
  | failed .. => "request failed"
  | uncollected .. => "flow collector is gone, dropping reply"
  | brokeDown .. => "inner executor flow broke down"
  | retrying .. => "retrying failed request"
  | gaveUp .. => "retry time limit exceeded, giving up"
  | unclosed .. => "failed to close inner executor flow"

/-- The particulars of an event, as named texts. -/
def fields : Event → List (String × String)
  | serving ticket route => [("ticket", ticket.text), ("route", route.text)]
  | failed ticket cause => [("ticket", ticket.text), ("failure", cause.text)]
  | uncollected ticket => [("ticket", ticket.text)]
  | brokeDown ticket error => [("ticket", ticket.text), ("error", error)]
  | retrying ticket route cause retries delay =>
    [("ticket", ticket.text), ("route", route.text), ("failure", cause.text),
      ("retries", toString retries), ("delay", delay.text)]
  | gaveUp ticket => [("ticket", ticket.text)]
  | unclosed error => [("error", error)]

end Event

end Errand
