import Errand.Executor

/-!
A service that answers from rules, the first that applies to a route giving one of its replies: the
next one each time it is used, and the last one for ever after. It remembers all it was asked.
-/

set_option autoImplicit false

namespace Errand.Stub

variable {V : ValueTypes}

/-- The routes that a rule applies to. -/
inductive Pattern where
  | uri (text : String)
  | route (text : String)
  | uriPrefix (text : String)

def Pattern.accepts (route : Route) : Pattern → Bool
  | uri text => route.uri = text
  | .route text => route.text = text
  | uriPrefix text => route.uri.startsWith text

inductive Output where
  /-- The body that was sent. -/
  | echo
  /-- The address that was called. -/
  | uri
  | fixed (outcome : Except Failure Response)

def Output.answer (s : Submission V) : Output → Except Failure Response
  | echo => .ok (.ok s.request.body.bytes)
  | uri => .ok (.ok (Utf8.encode s.route.uri))
  | fixed outcome => outcome

structure Rule where
  pattern : Pattern
  replies : List Output

/-- A submission and the millisecond at which the service was asked. -/
structure Entry (V : ValueTypes) where
  tick : Nat
  submission : Submission V

/-- What the service remembers. -/
structure Memory (V : ValueTypes) where
  /-- How often each rule has been used. -/
  uses : List Nat
  wire : Array (Entry V)

def Memory.blank : Memory V := ⟨[], #[]⟩

/-- One more than before at a place of a list of counts. -/
def count : Nat → List Nat → List Nat
  | 0, [] => [1]
  | 0, n :: rest => (n + 1) :: rest
  | i + 1, [] => 0 :: count i []
  | i + 1, n :: rest => n :: count i rest

/-- The service of a list of rules; `default` answers where none applies. -/
def service (rules : List Rule) (default : Output) : TimedService V (Memory V) :=
  fun tick s memory ↦
    let memory := { memory with wire := memory.wire.push ⟨tick, s⟩ }
    match rules.zipIdx.find? (·.1.pattern.accepts s.route) with
    | none => (default.answer s, memory)
    | some (rule, i) =>
      let output := (rule.replies[(memory.uses[i]?).getD 0]?).getD (rule.replies.getLastD .echo)
      (output.answer s, { memory with uses := count i memory.uses })

end Errand.Stub
