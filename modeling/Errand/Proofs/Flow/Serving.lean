import Errand.Flow
import Errand.Proofs.Evaluation

/-!
Flows in good health: every submission handed over is answered once, under its own ticket, and a
call may be pending some times before it is answered well. What such a flow answers is what an
`Answerer` does, one submission after the other. Whatever else goes on between two calls is part of
what the later call does to the state.
-/

set_option autoImplicit false

namespace Errand

variable {V : ValueTypes} {σ ε ω α : Type}

/-- A call is answered well after it has been pending some times. -/
inductive Eventually (poll : σ → Poll (Except ε α) × σ) (after : α → σ → Prop) : σ → Prop where
  | now {s s' : σ} {a : α} (hpoll : poll s = (.ready (.ok a), s')) (hafter : after a s') :
    Eventually poll after s
  | later {s s' : σ} (hpoll : poll s = (.pending, s')) (hlater : Eventually poll after s') :
    Eventually poll after s

theorem Eventually.imp {poll : σ → Poll (Except ε α) × σ} {after after' : α → σ → Prop} {s : σ}
    (heventually : Eventually poll after s) (himp : ∀ a s, after a s → after' a s) :
    Eventually poll after' s := by
  induction heventually with
  | now hpoll hafter => exact .now hpoll (himp _ _ hafter)
  | later hpoll _ ih => exact .later hpoll ih

/-- How far a flow is in serving a submission. -/
inductive Duty (V : ValueTypes) where
  | idle
  /-- The flow has said that a submission may be dispatched. -/
  | ready
  | holding (submission : Submission V)
  /-- The submission is on its way. -/
  | sent (submission : Submission V)

namespace Flow

/-- What it takes for a flow to serve, `holds duty w s` saying that it stands at this duty in the
state `s`, with the service in the state `w` as far as every earlier submission goes. -/
structure Serving (flow : Flow V σ ε) (answerer : Answerer V ω)
    (holds : Duty V → ω → σ → Prop) : Prop where
  ready : ∀ {w s}, holds .idle w s → Eventually flow.pollReady (fun _ ↦ holds .ready w) s
  dispatch : ∀ {w s} submission, holds .ready w s →
    ∃ s', flow.startDispatch submission s = (.ok (), s') ∧ holds (.holding submission) w s'
  flush : ∀ {w s submission}, holds (.holding submission) w s →
    Eventually flow.pollFlush (fun _ ↦ holds (.sent submission) w) s
  reply : ∀ {w s submission}, holds (.sent submission) w s →
    Eventually flow.pollReply (fun reply s' ↦
      reply = ⟨submission.ticket, (answerer submission w).1⟩ ∧
        holds .idle (answerer submission w).2 s') s
  close : ∀ {w s}, holds .idle w s → Eventually flow.pollClose (fun _ _ ↦ True) s

/-- Submissions to the flow in this state are answered as the answerer does from its state on. -/
def Serves (flow : Flow V σ ε) (answerer : Answerer V ω) (w : ω) (s : σ) : Prop :=
  ∃ holds : Duty V → ω → σ → Prop, flow.Serving answerer holds ∧ holds .idle w s

end Flow

end Errand
