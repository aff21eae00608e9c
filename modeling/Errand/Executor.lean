import Errand.EventLoop

/-!
Executors: recipes for flows. A loopback executor answers at once, a task executor gives every flow
a task that serves it, a retrying executor a task that serves it by way of a flow of another
executor, and a script acts out its cues. `Executor.openFlow` opens a flow on an event loop.
-/

set_option autoImplicit false

namespace Errand

inductive Executor where
  | loopback
  | tasks (latency : Option Duration) (buffer : Nat)
  | retrying (inner : Executor) (policy : Retry.Policy) (buffer : Nat)
  | script

namespace Executor

variable {V : ValueTypes} {ω : Type}

/-- Sets up a link that the given job serves, and lets its task begin. -/
def spawn (buffer : Nat) (job : Nat → Job V) (loop : EventLoop V ω) :
    Except Channel.RoomFault (Dock × EventLoop V ω) := do
  let (link, loop) ← loop.openLink buffer
  .ok (.link link, { loop with jobs := loop.jobs.push (job link) }.wake (.task loop.jobs.size))

/-- Opens a fresh flow. -/
def openFlow : Executor → EventLoop V ω → Except Channel.RoomFault (Dock × EventLoop V ω)
  | loopback, loop =>
    .ok (.line loop.lines.size, { loop with lines := loop.lines.push .fresh })
  | tasks latency buffer, loop => spawn buffer (.serve · latency .next) loop
  | retrying inner policy buffer, loop => do
    let (dock, loop) ← inner.openFlow loop
    spawn buffer (.retry · dock policy .next) loop
  | script, loop => .ok (.script, loop)

/-- A retrying executor around a fresh loopback executor, as a text; others have none. -/
def text? : Executor → Option String
  | retrying loopback policy buffer =>
    let timeout := policy.timeout.elim "None" fun d ↦ "Some(" ++ d.text ++ ")"
    some ("Retry \x7b inner: " ++ Loopback.text [] ++ ", timeout: " ++ timeout
      ++ ", buffer: " ++ toString buffer ++ " \x7d")
  | _ => none

end Executor

end Errand
