import Errand.Desk

/-!
The worker that retries: it forwards every submission to an inner flow and, when the reply is a
failure, asks a policy whether to wait and try again. A rate limit is never retried sooner than the
service asked. With a time limit, a retry that would begin after it is not made, and the last
failure is passed on at once.

An instant beyond the clock crashes the worker (`Phase.crashed`). On every other way out the inner
flow is closed.
-/

set_option autoImplicit false

namespace Errand.Retry

/-- What to do about a failure. -/
inductive Strategy where
  | retryAfter (delay : Duration)
  | fail
  deriving DecidableEq

/-- When a failure is decided on. What is said about it may come out differently from one occasion
to the next, as lots drawn do. -/
structure Occasion where
  ticket : Ticket
  /-- How often the submission has been retried. -/
  retries : Nat

structure Policy where
  /-- What to do about a failure. -/
  recover : Occasion → Failure → Strategy
  /-- How long after serving of a submission began a retry of it may still begin. -/
  timeout : Option Duration

/-- Retries the failures picked, the n-th time after the n-th of the delays. -/
def Policy.scheduled (picked : Failure → Bool) (delays : List Duration) : Policy where
  recover occasion cause :=
    if picked cause then (delays[occasion.retries]?).elim .fail .retryAfter else .fail
  timeout := none

/-- The submission being served. -/
structure Attempt (V : ValueTypes) where
  submission : Submission V
  /-- How often the submission has been retried. That it is fewer than 2^64 times, so that a machine
  word can count them, is taken for granted. -/
  retries : Nat
  deadline : Option Nat

inductive Phase (V : ValueTypes) where
  | next
  | trying (attempt : Attempt V) (stage : Stage V)
  | sleeping (attempt : Attempt V) (wakeUp : Nat)
  | replying (ticket : Ticket) (reply : Reply V)
  | closing
  | stopped
  | crashed

variable {V : ValueTypes} {σ ε : Type}

/-- The wait before a retry: as long as the strategy says, and as long as the service asked. -/
def waitFor (cause : Failure) (delay : Duration) : Duration :=
  match cause with
  | .rateLimited _ (some asked) => delay.max asked
  | _ => delay

/-- Begins to serve a submission. -/
def begin_ (policy : Policy) (submission : Submission V) (now : Nat) : Move × Phase V :=
  match policy.timeout with
  | none => (.again, .trying ⟨submission, 0, none⟩ (.dispatch submission))
  | some timeout =>
    match after? now timeout with
    | none => (.stopped, .crashed)
    | some deadline => (.again, .trying ⟨submission, 0, some deadline⟩ (.dispatch submission))

/-- Whether an instant is past the deadline, if there is one. -/
def isLate (deadline : Option Nat) (instant : Nat) : Bool :=
  match deadline with
  | none => false
  | some deadline => deadline < instant

/-- Decides on a failed attempt. -/
def reconsider (desk : Desk V σ) (policy : Policy) (attempt : Attempt V) (cause : Failure)
    (reply : Reply V) (s : σ) : (Move × Phase V) × σ :=
  let ticket := attempt.submission.ticket
  match policy.recover ⟨ticket, attempt.retries⟩ cause with
  | .fail => ((.again, .replying ticket reply), s)
  | .retryAfter delay =>
    let wait := waitFor cause delay
    let retries := attempt.retries + 1
    let s := desk.log (.retrying ticket attempt.submission.route cause retries wait) s
    match after? (desk.now s) wait with
    | none => ((.stopped, .crashed), s)
    | some wakeUp =>
      if isLate attempt.deadline wakeUp then
        ((.again, .replying ticket reply), desk.log (.gaveUp ticket) s)
      else ((.again, .sleeping { attempt with retries } wakeUp), s)

/-- Ends the serving after the inner flow broke down. -/
def abandon (desk : Desk V σ) (attempt : Attempt V) (error : String) (s : σ) :
    (Move × Phase V) × σ :=
  ((.again, .closing), desk.log (.brokeDown attempt.submission.ticket error) s)

/-- Goes through one phase. -/
def advance (desk : Desk V σ) (inner : Flow V σ ε) (describe : ε → String) (policy : Policy)
    (phase : Phase V) (s : σ) : (Move × Phase V) × σ :=
  match phase with
  | .next =>
    match desk.next s with
    | (.pending, s) => ((.waiting, phase), s)
    | (.ready none, s) => ((.again, .closing), s)
    | (.ready (some submission), s) => (begin_ policy submission (desk.now s), s)
  | .trying attempt stage =>
    match stage.poll inner s with
    | (.waiting stage, s) => ((.waiting, .trying attempt stage), s)
    | (.refused e, s) =>
      abandon desk attempt ("inner flow refused a submission: " ++ describe e) s
    | (.lost e, s) => abandon desk attempt ("inner flow failed to reply: " ++ describe e) s
    | (.replied reply, s) =>
      match reply.answer with
      | .failure cause => reconsider desk policy attempt cause reply s
      | .success _ | .filtered => ((.again, .replying attempt.submission.ticket reply), s)
  | .sleeping attempt wakeUp =>
    match desk.sleepUntil wakeUp s with
    | (.pending, s) => ((.waiting, phase), s)
    | (.ready (), s) => ((.again, .trying attempt (.dispatch attempt.submission)), s)
  | .replying ticket reply =>
    match desk.reply reply s with
    | (.pending, s) => ((.waiting, phase), s)
    | (.ready true, s) => ((.again, .next), s)
    | (.ready false, s) => ((.again, .closing), desk.log (.uncollected ticket) s)
  | .closing =>
    match inner.pollClose s with
    | (.pending, s) => ((.waiting, phase), s)
    | (.ready (.ok ()), s) => ((.stopped, .stopped), s)
    | (.ready (.error e), s) => ((.stopped, .stopped), desk.log (.unclosed (describe e)) s)
  | .stopped => ((.stopped, .stopped), s)
  | .crashed => ((.stopped, .crashed), s)

end Errand.Retry
