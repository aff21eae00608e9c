import Errand.Event
import Errand.Flow

/-!
What a worker has at hand: the submissions it takes, the replies it sends, a clock to read and to
sleep by, and a log. Instants are whole nanoseconds since the clock began. It began some time after
its own zero, and reaches no further than `2 ^ 63` seconds from there.
-/

set_option autoImplicit false

namespace Errand

/-- How many seconds were on the clock when it began. -/
def clockLead : Nat := 100000

/-- The first instant that the clock cannot tell. -/
def clockLimit : Nat := (Nat.pow 2 63 - clockLead) * nanosPerSecond

/-- The instant a while after another, if the clock reaches that far. -/
def after? (now : Nat) (d : Duration) : Option Nat :=
  if now + d.nanos < clockLimit then some (now + d.nanos) else none

/-- The tools of a worker whose surroundings have states `σ`. -/
structure Desk (V : ValueTypes) (σ : Type) where
  /-- Takes the next submission; `none` says that no more will come. -/
  next : σ → Poll (Option (Submission V)) × σ
  /-- Sends a reply; `false` says that nobody collects it. -/
  reply : Reply V → σ → Poll Bool × σ
  now : σ → Nat
  /-- Waits for an instant. -/
  sleepUntil : Nat → σ → Poll Unit × σ
  log : Event → σ → σ

/-- The outcome of one phase of a worker. -/
inductive Move where
  /-- The next phase can begin at once. -/
  | again
  | waiting
  | stopped
  deriving DecidableEq

end Errand
