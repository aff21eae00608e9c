import Errand.Program
import Errand.Run.Order

/-!
The two streams of a run. `Run.pollNext` makes moves until an item is there or the flow keeps it
waiting; every error is an item in the place of the value it took. `Run.pollValue` leaves the
errors out, and ends where the flow breaks down. Both come to an end of their moves because the
work of the run goes down with every one.

`Program.start` is the run of a program; `pollItem` and `pollResult` are its streams with the
values recovered.
-/

set_option autoImplicit false

namespace Errand

variable {V : ValueTypes} {S σ ε α : Type}

namespace Run

/-- The next item of a run, `none` being the end. -/
def pollNext [Resumes V S] [Terminating V S] (flow : Flow V σ ε) (run : Run V S) (s : σ) :
    (Poll (Option (Item V ε)) × Run V S) × σ :=
  match _h : run.step flow s with
  | ((.again, run'), s') => pollNext flow run' s'
  | ((.pending, run'), s') => ((.pending, run'), s')
  | ((.item item, run'), s') => ((.ready item, run'), s')
termination_by (Terminating.wf (V := V) (S := S)).wrap run.work
decreasing_by exact before_of_again _h

/-- The next value of a run, passing over errors; `none` is the end. -/
def pollValue [Resumes V S] [Terminating V S] (flow : Flow V σ ε) (run : Run V S) (s : σ) :
    (Poll (Option (Payload V)) × Run V S) × σ :=
  match _h : run.step flow s with
  | ((.again, run'), s') => pollValue flow run' s'
  | ((.pending, run'), s') => ((.pending, run'), s')
  | ((.item none, run'), s') => ((.ready none, run'), s')
  | ((.item (some (.ok value)), run'), s') => ((.ready (some value), run'), s')
  | ((.item (some (.error _)), run'), s') => pollValue flow run' s'
termination_by ((!run.finished).toNat, (Terminating.wf (V := V) (S := S)).wrap run.work)
decreasing_by
  · rw [finished_of_again _h]
    exact .right _ (before_of_again _h)
  · obtain ⟨hn, hf | ⟨hf, hb⟩⟩ := before_of_error _h
    · rw [hf, hn]
      exact .left _ _ Nat.zero_lt_one
    · rw [hf]
      exact .right _ hb

/-- A run as a text: how much has been submitted, how many tasks wait, and the ticket in flight. -/
def text (run : Run V S) : String :=
  let flight := match run.flight with
    | none => "None"
    | some flight => "Some(Ticket(" ++ toString flight.ticket.number ++ "))"
  "TryRun \x7b submitted: " ++ toString run.submitted ++ ", pending: "
    ++ toString run.tasks.length ++ ", in_flight: " ++ flight ++ ", finished: "
    ++ toString run.finished ++ " \x7d"

/-- A run whose errors are left out, as a text. -/
def valuesText (run : Run V S) : String := "Run \x7b inner: " ++ run.text ++ " \x7d"

end Run

namespace Program

/-- The run of a program, with nothing done yet. -/
def start [Carried V α] (program : Program V α S) : Run V S := .start program.erase

/-- The next value or error of the run of a program. -/
def pollItem (α : Type) [Carried V α] [Resumes V S] [Terminating V S] (flow : Flow V σ ε)
    (run : Run V S) (s : σ) : (Poll (Option (Except (RunError ε) α)) × Run V S) × σ :=
  match run.pollNext flow s with
  | ((.pending, run), s) => ((.pending, run), s)
  | ((.ready none, run), s) => ((.ready none, run), s)
  | ((.ready (some (.error e)), run), s) => ((.ready (some (.error e)), run), s)
  | ((.ready (some (.ok value)), run), s) =>
    ((.ready (some ((Carried.recover value).elim (.error .mistyped) .ok)), run), s)

/-- The next value of the run of a program. -/
def pollResult (α : Type) [Carried V α] [Resumes V S] [Terminating V S] (flow : Flow V σ ε)
    (run : Run V S) (s : σ) : (Poll (Option α) × Run V S) × σ :=
  match run.pollValue flow s with
  | ((.pending, run), s) => ((.pending, run), s)
  | ((.ready value, run), s) => ((.ready (value.bind Carried.recover), run), s)

end Program

end Errand
