import Errand.Proofs.Flow.Scripted
import Errand.Proofs.Run.History
import Errand.Values

/-!
Runs of well-founded programs come to an end. No poll makes moves for ever, over any flow: a poll is
finitely many moves of which all but the last are followed by another (`Run.pollNext_loops`), and a
poll of the values is finitely many polls of which all but the last bring errors
(`Run.pollValue_loops`).

A flow is attentive if none of its calls is pending for ever when it is the flow's turn
(`Flow.Attentive`); it may answer whatever it likes, and fail at any time. Over such a flow, every
run finds its end after finitely many moves (`Run.finishes_of_idle`): by induction on the work of
the run, which goes down with every answer, and for one piece of work by induction on how often the
flow keeps it waiting. So either stream of a run yields `none` after finitely many polls
(`streams_end`).
-/

set_option autoImplicit false

namespace Errand

variable {V : ValueTypes} {S σ ε ω α : Type}

/-! ### Loops that are left -/

namespace Run

/-- What makes a run and its flow go on: a move or a poll. -/
abbrev Drive (V : ValueTypes) (S σ τ : Type) := Run V S → σ → (τ × Run V S) × σ

variable {τ τ' : Type} {drive inner : Drive V S σ τ} {outer : Drive V S σ τ'}
  {run run' : Run V S} {s s' : σ}

/-- What driving brings. -/
def outcomeAt (drive : Drive V S σ τ) (stand : Run V S × σ) : τ := (drive stand.1 stand.2).1.1

/-- A run and its flow after driving them once. -/
def driven (drive : Drive V S σ τ) (stand : Run V S × σ) : Run V S × σ :=
  ((drive stand.1 stand.2).1.2, (drive stand.1 stand.2).2)

theorem outcomeAt_congr (hdrive : drive run s = drive run' s') :
    outcomeAt drive (run, s) = outcomeAt drive (run', s') := by
  rw [outcomeAt, outcomeAt, hdrive]

theorem driven_congr (hdrive : drive run s = drive run' s') :
    driven drive (run, s) = driven drive (run', s') := by
  rw [driven, driven, hdrive]

/-- Where a run is driven alike once, it is driven alike from then on. -/
theorem outcomeAt_iterate_congr (hdrive : drive run s = drive run' s') (n : ℕ) :
    outcomeAt drive ((driven drive)^[n] (run, s)) =
      outcomeAt drive ((driven drive)^[n] (run', s')) := by
  cases n with
  | zero => exact outcomeAt_congr hdrive
  | succ n => rw [Function.iterate_succ_apply, Function.iterate_succ_apply, driven_congr hdrive]

/-- Driving once is driving finitely often in another way: all times but the last make it go on,
and the last brings what is brought in the end. -/
def Loops (inner : Drive V S σ τ) (goesOn : τ → Prop) (outer : Drive V S σ τ')
    (brings : τ → τ' → Prop) (run : Run V S) (s : σ) : Prop :=
  ∃ n, (∀ i < n, goesOn (outcomeAt inner ((driven inner)^[i] (run, s)))) ∧
    brings (outcomeAt inner ((driven inner)^[n] (run, s))) (outcomeAt outer (run, s)) ∧
    (driven inner)^[n + 1] (run, s) = driven outer (run, s)

variable {goesOn : τ → Prop} {brings : τ → τ' → Prop} {outcome : τ} {outcome' : τ'}

theorem Loops.last (hinner : inner run s = ((outcome, run'), s'))
    (houter : outer run s = ((outcome', run'), s')) (hbrings : brings outcome outcome') :
    Loops inner goesOn outer brings run s :=
  ⟨0, by simp, by simpa [outcomeAt, hinner, houter] using hbrings,
    by simp [driven, hinner, houter]⟩

theorem Loops.more (hloops : Loops inner goesOn outer brings run' s')
    (hinner : inner run s = ((outcome, run'), s')) (hgoesOn : goesOn outcome)
    (houter : outer run s = outer run' s') : Loops inner goesOn outer brings run s := by
  obtain ⟨n, hmany, hlast, hdriven⟩ := hloops
  have hfirst : driven inner (run, s) = (run', s') := by simp [driven, hinner]
  refine ⟨n + 1, ?_, ?_, ?_⟩
  · rintro (_ | i) hi
    · simpa [outcomeAt, hinner] using hgoesOn
    · rw [Function.iterate_succ_apply, hfirst]
      exact hmany i (Nat.lt_of_succ_lt_succ hi)
  · rw [Function.iterate_succ_apply, hfirst, outcomeAt_congr houter]
    exact hlast
  · rw [Function.iterate_succ_apply, hfirst, hdriven, driven_congr houter]

theorem Loops.congr (hloops : Loops inner goesOn outer brings run' s')
    (hinner : inner run s = inner run' s') (houter : outer run s = outer run' s') :
    Loops inner goesOn outer brings run s := by
  obtain ⟨n, hmany, hlast, hdriven⟩ := hloops
  refine ⟨n, ?_, ?_, ?_⟩
  · intro i hi
    rw [outcomeAt_iterate_congr hinner]
    exact hmany i hi
  · rw [outcomeAt_iterate_congr hinner, outcomeAt_congr houter]
    exact hlast
  · rw [Function.iterate_succ_apply, driven_congr hinner, ← Function.iterate_succ_apply, hdriven,
      driven_congr houter]

end Run

/-- What a turn lets its poll return, if it ends the poll. -/
def Turn.outcome? : Turn V ε → Option (Poll (Option (Item V ε)))
  | .again => .none
  | .pending => some .pending
  | .item entry => some (.ready entry)

/-- What a poll for a value returns, as a poll for an item would. -/
def Poll.asItem : Poll (Option (Payload V)) → Poll (Option (Item V ε))
  | .pending => .pending
  | .ready value => .ready (value.map .ok)

/-- An item that polls for values pass over. -/
def Poll.IsError (outcome : Poll (Option (Item V ε))) : Prop :=
  ∃ e, outcome = .ready (some (.error e))

namespace Run

section Polls

variable [Resumes V S] [Terminating V S]

/-- A poll for an item leaves its loop: it is finitely many moves, all but the last of which are
followed by another. -/
theorem pollNext_loops (flow : Flow V σ ε) (run : Run V S) (s : σ) :
    Loops (step flow) (· = .again) (pollNext flow) (fun turn item ↦ turn.outcome? = some item)
      run s := by
  fun_induction run.pollNext flow s with
  | case1 run s run' s' hstep ih => exact ih.more hstep rfl (pollNext_of_step hstep)
  | case2 run s run' s' hstep => exact .last hstep (pollNext_of_step hstep) rfl
  | case3 run s item run' s' hstep => exact .last hstep (pollNext_of_step hstep) rfl

/-- A poll for a value goes on as its move says. -/
theorem pollValue_of_step {flow : Flow V σ ε} {run run' : Run V S} {s s' : σ} {turn : Turn V ε}
    (hstep : run.step flow s = ((turn, run'), s')) :
    run.pollValue flow s = match turn with
      | .again | .item (some (.error _)) => run'.pollValue flow s'
      | .pending => ((.pending, run'), s')
      | .item none => ((.ready none, run'), s')
      | .item (some (.ok value)) => ((.ready (some value), run'), s') := by
  rw [pollValue]
  split <;> rename_i heq <;> rw [hstep] at heq <;> cases heq <;> rfl

/-- A poll for a value leaves its loop: it is finitely many polls for items, all but the last of
which bring errors. -/
theorem pollValue_loops (flow : Flow V σ ε) (run : Run V S) (s : σ) :
    Loops (pollNext flow) Poll.IsError (pollValue flow) (fun item value ↦ item = value.asItem)
      run s := by
  fun_induction run.pollValue flow s with
  | case1 run s run' s' hstep ih =>
    exact ih.congr (pollNext_of_step hstep) (pollValue_of_step hstep)
  | case2 run s run' s' hstep =>
    exact .last (pollNext_of_step hstep) (pollValue_of_step hstep) rfl
  | case3 run s run' s' hstep =>
    exact .last (pollNext_of_step hstep) (pollValue_of_step hstep) rfl
  | case4 run s value run' s' hstep =>
    exact .last (pollNext_of_step hstep) (pollValue_of_step hstep) rfl
  | case5 run s e run' s' hstep ih =>
    exact ih.more (pollNext_of_step hstep) ⟨e, rfl⟩ (pollValue_of_step hstep)

end Polls

end Run

/-! ### Attentive flows -/

/-- A call is answered, well or not, after it has been pending some times. -/
inductive Responded (poll : σ → Poll α × σ) (after : α → σ → Prop) : σ → Prop where
  | now {s s' : σ} {a : α} (hpoll : poll s = (.ready a, s')) (hafter : after a s') :
    Responded poll after s
  | later {s s' : σ} (hpoll : poll s = (.pending, s')) (hlater : Responded poll after s') :
    Responded poll after s

/-- A call that is answered well is answered. -/
theorem Eventually.responded {poll : σ → Poll (Except ε α) × σ} {after : α → σ → Prop}
    {after' : Except ε α → σ → Prop} {s : σ} (heventually : Eventually poll after s)
    (himp : ∀ a s, after a s → after' (.ok a) s) : Responded poll after' s := by
  induction heventually with
  | now hpoll hafter => exact .now hpoll (himp _ _ hafter)
  | later hpoll _ ih => exact .later hpoll ih

namespace Flow

/-- What it takes for a flow to keep nobody waiting for ever, `holds duty s` saying that it stands
at this duty. Where a call fails, or a reply carries another ticket, nothing more is asked of the
flow. -/
structure Attentive (flow : Flow V σ ε) (holds : Duty V → σ → Prop) : Prop where
  ready : ∀ {s}, holds .idle s →
    Responded flow.pollReady (fun outcome s' ↦ outcome = .ok () → holds .ready s') s
  dispatch : ∀ {s s'} submission, holds .ready s →
    flow.startDispatch submission s = (.ok (), s') → holds (.holding submission) s'
  flush : ∀ {s submission}, holds (.holding submission) s →
    Responded flow.pollFlush (fun outcome s' ↦ outcome = .ok () → holds (.sent submission) s') s
  reply : ∀ {s submission}, holds (.sent submission) s →
    Responded flow.pollReply (fun outcome s' ↦
      ∀ reply, outcome = .ok reply → reply.ticket = submission.ticket → holds .idle s') s
  close : ∀ {s}, holds .idle s → Responded flow.pollClose (fun _ _ ↦ True) s

/-- Nobody is kept waiting for ever by the flow in this state. -/
def Attends (flow : Flow V σ ε) (s : σ) : Prop :=
  ∃ holds : Duty V → σ → Prop, flow.Attentive holds ∧ holds .idle s

/-- A flow that serves keeps nobody waiting for ever. -/
theorem Serves.attends {flow : Flow V σ ε} {answerer : Answerer V ω} {w : ω} {s : σ}
    (hserves : flow.Serves answerer w s) : flow.Attends s := by
  obtain ⟨holds, hserving, hidle⟩ := hserves
  refine ⟨fun duty s ↦ ∃ w, holds duty w s, ⟨?_, ?_, ?_, ?_, ?_⟩, w, hidle⟩
  · rintro s ⟨w, hidle⟩
    exact (hserving.ready hidle).responded fun _ _ hready _ ↦ ⟨w, hready⟩
  · rintro s s' submission ⟨w, hready⟩ hstart
    obtain ⟨s'', hstart', hholding⟩ := hserving.dispatch submission hready
    obtain rfl : s' = s'' := congrArg Prod.snd (hstart.symm.trans hstart')
    exact ⟨w, hholding⟩
  · rintro s submission ⟨w, hholding⟩
    exact (hserving.flush hholding).responded fun _ _ hsent _ ↦ ⟨w, hsent⟩
  · rintro s submission ⟨w, hsent⟩
    exact (hserving.reply hsent).responded fun _ _ hreply _ _ _ ↦ ⟨_, hreply.2⟩
  · rintro s ⟨w, hidle⟩
    exact (hserving.close hidle).responded fun _ _ _ ↦ trivial

end Flow

/-! ### Runs find their end -/

namespace Run

section Moves

variable [Resumes V S]

/-- A run finds its end after finitely many moves. -/
inductive Finishes (flow : Flow V σ ε) : Run V S → σ → Prop where
  | now {run : Run V S} {s : σ} (hturn : (run.step flow s).1.1 = .item none) : Finishes flow run s
  | later {run : Run V S} {s : σ}
    (hrest : Finishes flow (run.step flow s).1.2 (run.step flow s).2) : Finishes flow run s

variable {flow : Flow V σ ε} {holds : Duty V → σ → Prop} {tasks : List (Task V S)}
  {chain : List S} {ticket : Ticket} {k : ℕ} {s s' : σ}

theorem Finishes.of_step_eq {run run' : Run V S} (hfinishes : Finishes flow run' s')
    (hstep : run.step flow s = run'.step flow s') : Finishes flow run s := by
  cases hfinishes with
  | now hturn => exact .now (hstep ▸ hturn)
  | later hrest => exact .later (hstep ▸ hrest)

/-- A run that is over after a move finds its end at the next. -/
theorem Finishes.of_over {run : Run V S} (hover : (run.step flow s).1.2.finished = true) :
    Finishes flow run s :=
  .later (.now (by rw [step, if_pos hover]))

/-- A move depends on the stage only through what driving the exchange brings. -/
theorem step_flight_congr {stage stage' : Stage V}
    (hpoll : stage.poll flow s = stage'.poll flow s') :
    step flow ⟨tasks, some ⟨ticket, stage, chain⟩, k, false⟩ s =
      step flow ⟨tasks, some ⟨ticket, stage', chain⟩, k, false⟩ s' := by
  simp only [step, Flight.poll, hpoll, Bool.false_eq_true, if_false]
  rcases stage'.poll flow s' with ⟨_ | _ | _ | reply, s''⟩
  · rfl
  · rfl
  · rfl
  · by_cases hticket : reply.ticket = ticket <;> simp [hticket, land, finish]

/-- A run finds its end whatever its answer is, once its flow is idle again. -/
def FinishesLanded (flow : Flow V σ ε) (holds : Duty V → σ → Prop) (tasks : List (Task V S))
    (chain : List S) (k : ℕ) : Prop :=
  ∀ s, holds .idle s → Finishes flow ⟨tasks, none, k, false⟩ s ∧
    ∀ value, Finishes flow (deliver (ε := ε) value chain ⟨tasks, none, k, false⟩).2 s

theorem finishes_await (hlanded : FinishesLanded flow holds tasks chain k)
    (hreply : Responded flow.pollReply (fun outcome s' ↦
      ∀ reply, outcome = .ok reply → reply.ticket = ticket → holds .idle s') s) :
    Finishes flow ⟨tasks, some ⟨ticket, .await, chain⟩, k, false⟩ s := by
  induction hreply with
  | later hpoll _ ih =>
    exact .later (by simpa [step, Flight.poll, Stage.poll, Stage.pollAwait, hpoll, land] using ih)
  | @now s s' outcome hpoll hafter =>
    rcases outcome with e | reply
    · exact .of_over (by
        simp [step, Flight.poll, Stage.poll, Stage.pollAwait, hpoll, land, finish])
    · by_cases hticket : reply.ticket = ticket
      · obtain ⟨hrest, hvalue⟩ := hlanded s' (hafter reply rfl hticket)
        refine .later ?_
        rcases hanswer : reply.answer with value | _ | cause
        · simpa [step, Flight.poll, Stage.poll, Stage.pollAwait, hpoll, hticket, hanswer, land]
            using hvalue value
        · simpa [step, Flight.poll, Stage.poll, Stage.pollAwait, hpoll, hticket, hanswer, land]
            using hrest
        · simpa [step, Flight.poll, Stage.poll, Stage.pollAwait, hpoll, hticket, hanswer, land]
            using hrest
      · exact .of_over (by
          simp [step, Flight.poll, Stage.poll, Stage.pollAwait, hpoll, hticket, land, finish])

theorem finishes_flush (hlanded : FinishesLanded flow holds tasks chain k)
    (hattentive : flow.Attentive holds) {submission : Submission V}
    (hflush : Responded flow.pollFlush (fun outcome s' ↦
      outcome = .ok () → holds (.sent submission) s') s) :
    Finishes flow ⟨tasks, some ⟨submission.ticket, .flush, chain⟩, k, false⟩ s := by
  induction hflush with
  | later hpoll _ ih =>
    exact .later (by simpa [step, Flight.poll, Stage.poll, Stage.pollFlush, hpoll, land] using ih)
  | @now s s' outcome hpoll hafter =>
    rcases outcome with e | _
    · exact .of_over (by
        simp [step, Flight.poll, Stage.poll, Stage.pollFlush, hpoll, land, finish])
    · refine (finishes_await hlanded (hattentive.reply (hafter rfl))).of_step_eq ?_
      exact step_flight_congr (by simp [Stage.poll, Stage.pollFlush, hpoll])

theorem finishes_dispatch (hlanded : FinishesLanded flow holds tasks chain k)
    (hattentive : flow.Attentive holds) (submission : Submission V)
    (hready : Responded flow.pollReady (fun outcome s' ↦ outcome = .ok () → holds .ready s') s) :
    Finishes flow ⟨tasks, some ⟨submission.ticket, .dispatch submission, chain⟩, k, false⟩ s := by
  induction hready with
  | later hpoll _ ih =>
    exact .later
      (by simpa [step, Flight.poll, Stage.poll, Stage.pollDispatch, hpoll, land] using ih)
  | @now s s' outcome hpoll hafter =>
    rcases outcome with e | _
    · exact .of_over (by
        simp [step, Flight.poll, Stage.poll, Stage.pollDispatch, hpoll, land, finish])
    · rcases hstart : flow.startDispatch submission s' with ⟨e | _, s''⟩
      · exact .of_over (by
          simp [step, Flight.poll, Stage.poll, Stage.pollDispatch, hpoll, hstart, land, finish])
      · have hholding := hattentive.dispatch submission (hafter rfl) hstart
        refine (finishes_flush hlanded hattentive (hattentive.flush hholding)).of_step_eq ?_
        exact step_flight_congr (by simp [Stage.poll, Stage.pollDispatch, hpoll, hstart])

theorem finishes_close (hclose : Responded flow.pollClose (fun _ _ ↦ True) s) :
    Finishes flow ⟨([] : List (Task V S)), none, k, false⟩ s := by
  induction hclose with
  | later hpoll _ ih => exact .later (by simpa [step, close, hpoll] using ih)
  | @now s s' outcome hpoll =>
    rcases outcome with e | _
    · exact .of_over (by simp [step, close, hpoll, finish])
    · exact .now (by simp [step, close, hpoll])

/-- A run over an attentive flow finds its end. -/
theorem finishes_of_idle [Terminating V S] (hattentive : flow.Attentive holds)
    (tasks : List (Task V S)) (k : ℕ) (hidle : holds .idle s) :
    Finishes flow ⟨tasks, none, k, false⟩ s := by
  -- By induction on the work: a submission is taken up and answered in one go.
  induction hwork : work ⟨tasks, none, k, false⟩ using
    (Terminating.wf (V := V) (S := S)).transGen.induction generalizing tasks k s with
  | _ w ih =>
    subst hwork
    rcases tasks with _ | ⟨⟨plan, chain⟩, rest⟩
    · exact finishes_close (hattentive.close hidle)
    · have hless : ∀ (tasks' : List (Task V S)) (k' : ℕ) {s' : σ}, holds .idle s' →
          Relation.TransGen Work.Before (work ⟨tasks', none, k', false⟩)
            (work ⟨⟨plan, chain⟩ :: rest, none, k, false⟩) →
          Finishes flow ⟨tasks', none, k', false⟩ s' := by
        intro tasks' k' s' hidle hbefore
        exact ih _ hbefore tasks' k' hidle rfl
      have hdelivered : ∀ (value : Payload V) (k' : ℕ) {s' : σ}, holds .idle s' →
          Relation.TransGen Work.Before (Work.delivered value (work ⟨rest, none, k', false⟩) chain)
            (work ⟨⟨plan, chain⟩ :: rest, none, k, false⟩) →
          Finishes flow (deliver (ε := ε) value chain ⟨rest, none, k', false⟩).2 s' := by
        intro value k' s' hidle hbefore
        cases chain with
        | nil => exact hless rest k' hidle hbefore
        | cons step chain => exact hless _ k' hidle hbefore
      refine .later ?_
      cases plan with
      | done value => exact hdelivered value k hidle (.single .done)
      | empty => exact hless rest k hidle (.single .empty)
      | submit request =>
        have hlanded : FinishesLanded flow holds rest chain (k + 1) := fun s' hidle ↦
          ⟨hless rest (k + 1) hidle (.tail (.single .unanswered) .submit),
            fun value ↦ hdelivered value (k + 1) hidle (.tail (.single .answered) .submit)⟩
        have hready := hattentive.ready hidle
        exact finishes_dispatch hlanded hattentive ⟨⟨k⟩, request⟩ hready
      | sequence first steps => exact hless _ k hidle (.single .sequence)
      | concat parts =>
        have hwork : work (⟨parts.map (fun part ↦ ⟨part, chain⟩) ++ rest, none, k, false⟩) =
            parts.map (Work.task · chain) ++ work ⟨rest, none, k, false⟩ := by
          simp [work, Function.comp_def]
        exact hless _ k hidle (.single (hwork ▸ .concat))
      | mistyped => exact .now rfl

end Moves

/-! ### Streams find their end -/

section Streams

variable {β : Type}

/-- After finitely many polls, a stream yields `none`. -/
def ReachesEnd (drive : Drive V S σ (Poll (Option β))) (run : Run V S) (s : σ) : Prop :=
  ∃ n, outcomeAt drive ((driven drive)^[n] (run, s)) = .ready none

variable {drive : Drive V S σ (Poll (Option β))} {run run' : Run V S} {s s' : σ}

theorem ReachesEnd.congr (hend : ReachesEnd drive run' s') (hdrive : drive run s = drive run' s') :
    ReachesEnd drive run s := by
  obtain ⟨n, hnone⟩ := hend
  exact ⟨n, by rwa [outcomeAt_iterate_congr hdrive]⟩

theorem ReachesEnd.later (hend : ReachesEnd drive run' s') {outcome : Poll (Option β)}
    (hdrive : drive run s = ((outcome, run'), s')) : ReachesEnd drive run s := by
  obtain ⟨n, hnone⟩ := hend
  have hfirst : driven drive (run, s) = (run', s') := by simp [driven, hdrive]
  exact ⟨n + 1, by rwa [Function.iterate_succ_apply, hfirst]⟩

variable [Resumes V S] [Terminating V S] {flow : Flow V σ ε}

/-- A run that finds its end does so under polls for items. -/
theorem Finishes.items_reachEnd (hfinishes : Finishes flow run s) :
    ReachesEnd (pollNext flow) run s := by
  induction hfinishes with
  | @now run s hturn =>
    rcases hstep : run.step flow s with ⟨⟨turn, run'⟩, s'⟩
    obtain rfl : turn = .item none := by simpa [hstep] using hturn
    have hpoll := pollNext_of_step hstep
    exact ⟨0, by simp [outcomeAt, hpoll]⟩
  | @later run s _ ih =>
    rcases hstep : run.step flow s with ⟨⟨turn, run'⟩, s'⟩
    rw [hstep] at ih
    cases turn with
    | again => exact ih.congr (pollNext_of_step hstep)
    | pending => exact ih.later (pollNext_of_step hstep)
    | item entry => exact ih.later (pollNext_of_step hstep)

/-- A run that finds its end does so under polls for values. -/
theorem Finishes.values_reachEnd (hfinishes : Finishes flow run s) :
    ReachesEnd (pollValue flow) run s := by
  induction hfinishes with
  | @now run s hturn =>
    rcases hstep : run.step flow s with ⟨⟨turn, run'⟩, s'⟩
    obtain rfl : turn = .item none := by simpa [hstep] using hturn
    have hpoll := pollValue_of_step hstep
    exact ⟨0, by simp [outcomeAt, hpoll]⟩
  | @later run s _ ih =>
    rcases hstep : run.step flow s with ⟨⟨turn, run'⟩, s'⟩
    rw [hstep] at ih
    rcases turn with _ | _ | _ | e | value
    · exact ih.congr (pollValue_of_step hstep)
    · exact ih.later (pollValue_of_step hstep)
    · exact ih.later (pollValue_of_step hstep)
    · exact ih.congr (pollValue_of_step hstep)
    · exact ih.later (pollValue_of_step hstep)

end Streams

/-- Runs of well-founded programs come to an end. Over any flow and in any state, a poll for an item
is finitely many moves, and a poll for a value finitely many polls for items. Over a flow that keeps
nobody waiting for ever, either stream of every program yields `none` after finitely many polls. -/
theorem streams_end [Carried V α] (flow : Flow V σ ε) :
    (∀ (run : Run V (Step V)) (s : σ),
      Loops (step flow) (· = .again) (pollNext flow) (fun turn item ↦ turn.outcome? = some item)
          run s ∧
        Loops (pollNext flow) Poll.IsError (pollValue flow) (fun item value ↦ item = value.asItem)
          run s) ∧
      ∀ (p : Program V α) (s : σ), flow.Attends s →
        ReachesEnd (pollNext flow) p.start s ∧ ReachesEnd (pollValue flow) p.start s := by
  refine ⟨fun run s ↦ ⟨pollNext_loops flow run s, pollValue_loops flow run s⟩, ?_⟩
  rintro p s ⟨holds, hattentive, hidle⟩
  have hfinishes : Finishes flow p.start s := finishes_of_idle hattentive _ 0 hidle
  exact ⟨hfinishes.items_reachEnd, hfinishes.values_reachEnd⟩

/-- A script that makes every call wait twice keeps nobody waiting for ever. -/
theorem streams_end_of_waiting :
    let service : TimedService values ℕ := fun _ _ n ↦ (.ok (.ok [n.toUInt8]), n + 1)
    let waiting : EventLoop values ℕ := .start 5 fun _ ↦ [.wait, .wait]
    let flow := EventLoop.flow service .caller .script
    let request : Request UInt8 :=
      { route := ⟨.get, "/"⟩, decode := fun response ↦ .ok response.body.head?, label := "Get" }
    let p : Program values UInt8 := (Program.submit request).flatMap fun n ↦
      .concat [.done n, .submit request, .ofList [n, n + 1]]
    flow.Attends waiting ∧ ReachesEnd (pollNext flow) p.start waiting := by
  intro service waiting flow request p
  have hpatient : waiting.script.Patient := by
    intro call cue hcue
    have hwait : cue ∈ [Cue.wait, Cue.wait] := hcue
    simp_all
  have hattends : flow.Attends waiting :=
    (EventLoop.serves_script service .caller hpatient rfl).attends
  exact ⟨hattends, ((streams_end flow).2 p waiting hattends).1⟩

end Run

end Errand
