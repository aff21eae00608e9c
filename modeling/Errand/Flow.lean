import Errand.Answer

/-!
Flows: where submissions go in and replies come out. A flow is given by what each of its five
calls does to a state, and nothing is assumed about them: a call may be pending as often as it
likes, fail at any time, and answer whatever it likes.

`Stage.poll` drives one exchange: a submission is dispatched once the flow is ready for it, the
flow is flushed, and then the next reply is awaited.
-/

set_option autoImplicit false

namespace Errand

/-- The outcome of asking for something that may not be there yet. -/
inductive Poll (α : Type) where
  | pending
  | ready (value : α)

/-- The calls of a flow on states `σ`, failing with `ε`. -/
structure Flow (V : ValueTypes) (σ ε : Type) where
  /-- Asks whether a submission may be dispatched. -/
  pollReady : σ → Poll (Except ε Unit) × σ
  /-- Hands a submission over. -/
  startDispatch : Submission V → σ → Except ε Unit × σ
  /-- Asks whether everything handed over is on its way. -/
  pollFlush : σ → Poll (Except ε Unit) × σ
  /-- Asks for the submitting side to be closed. -/
  pollClose : σ → Poll (Except ε Unit) × σ
  /-- Asks for the next reply. -/
  pollReply : σ → Poll (Except ε (Reply V)) × σ

/-- How far the exchange of a submission for its reply has come. -/
inductive Stage (V : ValueTypes) where
  | dispatch (submission : Submission V)
  | flush
  | await

/-- What became of an exchange. -/
inductive Exchange (V : ValueTypes) (ε : Type) where
  | waiting (stage : Stage V)
  /-- The flow did not take the submission. -/
  | refused (source : ε)
  /-- The flow broke down before a reply. -/
  | lost (source : ε)
  | replied (reply : Reply V)

namespace Stage

variable {V : ValueTypes} {σ ε : Type}

def pollAwait (flow : Flow V σ ε) (s : σ) : Exchange V ε × σ :=
  match flow.pollReply s with
  | (.pending, s) => (.waiting .await, s)
  | (.ready (.error e), s) => (.lost e, s)
  | (.ready (.ok reply), s) => (.replied reply, s)

def pollFlush (flow : Flow V σ ε) (s : σ) : Exchange V ε × σ :=
  match flow.pollFlush s with
  | (.pending, s) => (.waiting .flush, s)
  | (.ready (.error e), s) => (.refused e, s)
  | (.ready (.ok ()), s) => pollAwait flow s

def pollDispatch (flow : Flow V σ ε) (submission : Submission V) (s : σ) : Exchange V ε × σ :=
  match flow.pollReady s with
  | (.pending, s) => (.waiting (.dispatch submission), s)
  | (.ready (.error e), s) => (.refused e, s)
  | (.ready (.ok ()), s) =>
    match flow.startDispatch submission s with
    | (.error e, s) => (.refused e, s)
    | (.ok (), s) => pollFlush flow s

/-- Drives an exchange as far as the flow lets it come. -/
def poll (flow : Flow V σ ε) : Stage V → σ → Exchange V ε × σ
  | dispatch submission => pollDispatch flow submission
  | flush => pollFlush flow
  | await => pollAwait flow

end Stage

end Errand
