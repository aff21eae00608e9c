import Errand.Desk
import Errand.Loopback

/-!
The worker that serves a channel with a handler, one submission at a time: it takes a submission,
waits out the latency of the handler, asks the service, and sends the reply before it takes the
next. It stops when no more submissions come or nobody collects.
-/

set_option autoImplicit false

namespace Errand.Worker

inductive Phase (V : ValueTypes) where
  | next
  | handling (submission : Submission V) (wakeUp : Nat)
  | replying (reply : Reply V)
  | stopped

variable {V : ValueTypes} {σ : Type}

/-- How long a handler sleeps when its latency is beyond the clock: thirty years. -/
def longSleep : Nat := 30 * 365 * 86400 * nanosPerSecond

/-- Asks the service and turns to sending the reply. -/
def handle (desk : Desk V σ) (service : Service V σ) (submission : Submission V) (s : σ) :
    (Move × Phase V) × σ :=
  let (outcome, s) := service submission s
  let s := match outcome with
    | .ok _ => s
    | .error cause => desk.log (.failed submission.ticket cause) s
  ((.again, .replying (submission.settle outcome)), s)

/-- Goes through one phase. -/
def advance (desk : Desk V σ) (service : Service V σ) (latency : Option Duration)
    (phase : Phase V) (s : σ) : (Move × Phase V) × σ :=
  match phase with
  | .next =>
    match desk.next s with
    | (.pending, s) => ((.waiting, .next), s)
    | (.ready none, s) => ((.stopped, .stopped), s)
    | (.ready (some submission), s) =>
      let s := desk.log (.serving submission.ticket submission.route) s
      match latency with
      | none => handle desk service submission s
      | some latency =>
        let wakeUp := (after? (desk.now s) latency).getD (desk.now s + longSleep)
        ((.again, .handling submission wakeUp), s)
  | .handling submission wakeUp =>
    match desk.sleepUntil wakeUp s with
    | (.pending, s) => ((.waiting, phase), s)
    | (.ready (), s) => handle desk service submission s
  | .replying reply =>
    match desk.reply reply s with
    | (.pending, s) => ((.waiting, phase), s)
    | (.ready true, s) => ((.again, .next), s)
    | (.ready false, s) => ((.stopped, .stopped), desk.log (.uncollected reply.ticket) s)
  | .stopped => ((.stopped, .stopped), s)

end Errand.Worker
