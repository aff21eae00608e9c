import Errand.Flow

/-!
The loopback executor answers every submission as soon as it is dispatched, without leaving the
caller. Its lines are independent queues of replies; all of them share a journal of the routes
served and the state of the service behind them.
-/

set_option autoImplicit false

namespace Errand

/-- What answers submissions: it may keep a state, and may fail without an answer. -/
abbrev Service (V : ValueTypes) (ω : Type) := Submission V → ω → Except Failure Response × ω

/-- The service that sends every body back. -/
def Service.echo {V : ValueTypes} {ω : Type} : Service V ω := fun s w ↦
  (.ok (.ok s.request.body.bytes), w)

namespace Loopback

inductive Error where
  /-- A submission came after the line was closed. -/
  | closed
  /-- Everything dispatched has been collected. -/
  | nothingPending
  deriving DecidableEq, Repr

def Error.text : Error → String
  | closed => "submission dispatched to a closed loopback flow"
  | nothingPending => "no submission is waiting for a reply"

/-- One flow of a loopback executor. -/
structure Line (V : ValueTypes) where
  replies : List (Reply V)
  closed : Bool

variable {V : ValueTypes} {ω : Type}

namespace Line

def fresh : Line V := ⟨[], false⟩

def ready (line : Line V) : Except Error Unit := if line.closed then .error .closed else .ok ()

/-- Serves a submission: its route is recorded and its reply queued. A closed line refuses. -/
def dispatch (service : Service V ω) (submission : Submission V) (line : Line V)
    (journal : Array Route) (w : ω) : Except Error Unit × Line V × Array Route × ω :=
  if line.closed then (.error .closed, line, journal, w)
  else
    let (outcome, w) := service submission w
    (.ok (), { line with replies := line.replies ++ [submission.settle outcome] },
      journal.push submission.route, w)

def close (line : Line V) : Line V := { line with closed := true }

/-- Takes the oldest reply. -/
def collect (line : Line V) : Except Error (Reply V) × Line V :=
  match line.replies with
  | [] => (.error .nothingPending, line)
  | reply :: rest => (.ok reply, { line with replies := rest })

/-- The submitting side of a line as a text. -/
def text (line : Line V) : String :=
  "Sender \x7b closed: " ++ toString line.closed ++ ", .. \x7d"

end Line

/-- A loopback executor as a text, given its journal. -/
def text (journal : List Route) : String :=
  "Loopback \x7b journal: [" ++ ", ".intercalate (journal.map Route.label) ++ "], .. \x7d"

end Loopback

end Errand
