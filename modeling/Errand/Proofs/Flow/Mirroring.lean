import Errand.Proofs.Run.Agreement
import Errand.Proofs.Run.Determinism

/-!
Flows that mirror each other: in states that are alike they answer every call alike, and are alike
again (`Flow.Mirrors`). Whatever comes of a run over one of them, by a move or by a poll of either
stream, comes of it over the other (`Flow.Mirrors.step`, `Flow.Mirrors.returns`,
`Flow.Mirrors.returnsValue`). What every call keeps true of a flow, polls do
(`Flow.Preserves.returns`, `Flow.Preserves.returnsValue`).
-/

set_option autoImplicit false

namespace Errand

variable {V : ValueTypes} {S σ σ' ε α τ τ' : Type}

namespace Run

/-- Whatever comes of one deed comes of the other where the flows are alike, and leaves them
alike. -/
def Deed.Follows (alike : σ → σ' → Prop) (deed : Deed V S σ τ) (deed' : Deed V S σ' τ) : Prop :=
  ∀ ⦃stand outcome stand'⦄, deed stand outcome stand' → ∀ ⦃s'⦄, alike stand.2 s' →
    ∃ t', deed' (stand.1, s') outcome (stand'.1, t') ∧ alike stand'.2 t'

theorem Deed.Follows.until {alike : σ → σ' → Prop} {deed : Deed V S σ τ} {deed' : Deed V S σ' τ}
    (hfollows : Deed.Follows alike deed deed') (returns? : τ → Option τ') :
    Deed.Follows alike (Until deed returns?) (Until deed' returns?) := by
  intro stand returned stand' huntil
  induction huntil with
  | last hdeed hreturns =>
    intro s' hs
    obtain ⟨t', hdeed', ht⟩ := hfollows hdeed hs
    exact ⟨t', .last hdeed' hreturns, ht⟩
  | again hdeed hreturns _ ih =>
    intro s' hs
    obtain ⟨t', hdeed', ht⟩ := hfollows hdeed hs
    obtain ⟨u', hrest', hu⟩ := ih ht
    exact ⟨u', .again hdeed' hreturns hrest', hu⟩

end Run

namespace Flow

/-- The same has come of both, and the states left behind are alike. -/
def Both (alike : σ → σ' → Prop) (x : α × σ) (x' : α × σ') : Prop := x.1 = x'.1 ∧ alike x.2 x'.2

theorem Both.exists_eq {alike : σ → σ' → Prop} {x : α × σ} {x' : α × σ'} (hboth : Both alike x x') :
    ∃ a t t', x = (a, t) ∧ x' = (a, t') ∧ alike t t' :=
  ⟨x.1, x.2, x'.2, rfl, Prod.ext hboth.1.symm rfl, hboth.2⟩

/-- Flows that answer every call alike in states that are alike, and are alike again. -/
structure Mirrors (flow : Flow V σ ε) (flow' : Flow V σ' ε) (alike : σ → σ' → Prop) : Prop where
  ready : ∀ {s s'}, alike s s' → Both alike (flow.pollReady s) (flow'.pollReady s')
  dispatch : ∀ submission {s s'}, alike s s' →
    Both alike (flow.startDispatch submission s) (flow'.startDispatch submission s')
  flush : ∀ {s s'}, alike s s' → Both alike (flow.pollFlush s) (flow'.pollFlush s')
  close : ∀ {s s'}, alike s s' → Both alike (flow.pollClose s) (flow'.pollClose s')
  reply : ∀ {s s'}, alike s s' → Both alike (flow.pollReply s) (flow'.pollReply s')

namespace Mirrors

variable {flow : Flow V σ ε} {flow' : Flow V σ' ε} {alike : σ → σ' → Prop}
  (hmirrors : flow.Mirrors flow' alike) {s : σ} {s' : σ'}
include hmirrors

/-- Flows that keep records mirror each other as they would without. -/
theorem recorded : flow.recorded.Mirrors flow'.recorded
    fun s s' ↦ alike s.1 s'.1 ∧ s.2 = s'.2 where
  ready := fun {s s'} h ↦ by
    obtain ⟨hanswer, halike⟩ := hmirrors.ready h.1
    exact ⟨hanswer, halike, by simp [Flow.recorded, hanswer, h.2]⟩
  dispatch := fun submission {s s'} h ↦ by
    obtain ⟨hanswer, halike⟩ := hmirrors.dispatch submission h.1
    exact ⟨hanswer, halike, by simp [Flow.recorded, hanswer, h.2]⟩
  flush := fun {s s'} h ↦ by
    obtain ⟨hanswer, halike⟩ := hmirrors.flush h.1
    exact ⟨hanswer, halike, by simp [Flow.recorded, hanswer, h.2]⟩
  close := fun {s s'} h ↦ by
    obtain ⟨hanswer, halike⟩ := hmirrors.close h.1
    exact ⟨hanswer, halike, by simp [Flow.recorded, hanswer, h.2]⟩
  reply := fun {s s'} h ↦ by
    obtain ⟨hanswer, halike⟩ := hmirrors.reply h.1
    exact ⟨hanswer, halike, by simp [Flow.recorded, hanswer, h.2]⟩

theorem pollAwait (hs : alike s s') :
    Both alike (Stage.pollAwait flow s) (Stage.pollAwait flow' s') := by
  obtain ⟨answer, t, t', hpoll, hpoll', ht⟩ := (hmirrors.reply hs).exists_eq
  rcases answer with _ | _ | _ <;> simp only [Stage.pollAwait, hpoll, hpoll'] <;> exact ⟨rfl, ht⟩

theorem pollFlush (hs : alike s s') :
    Both alike (Stage.pollFlush flow s) (Stage.pollFlush flow' s') := by
  obtain ⟨answer, t, t', hpoll, hpoll', ht⟩ := (hmirrors.flush hs).exists_eq
  rcases answer with _ | _ | _ <;> simp only [Stage.pollFlush, hpoll, hpoll']
  · exact ⟨rfl, ht⟩
  · exact ⟨rfl, ht⟩
  · exact hmirrors.pollAwait ht

theorem pollDispatch (submission : Submission V) (hs : alike s s') :
    Both alike (Stage.pollDispatch flow submission s) (Stage.pollDispatch flow' submission s') := by
  obtain ⟨answer, t, t', hpoll, hpoll', ht⟩ := (hmirrors.ready hs).exists_eq
  rcases answer with _ | _ | _ <;> simp only [Stage.pollDispatch, hpoll, hpoll']
  · exact ⟨rfl, ht⟩
  · exact ⟨rfl, ht⟩
  · obtain ⟨taken, u, u', hstart, hstart', hu⟩ := (hmirrors.dispatch submission ht).exists_eq
    rcases taken with _ | _ <;> simp only [hstart, hstart']
    · exact ⟨rfl, hu⟩
    · exact hmirrors.pollFlush hu

theorem stage_poll (stage : Stage V) (hs : alike s s') :
    Both alike (stage.poll flow s) (stage.poll flow' s') := by
  cases stage with
  | dispatch submission => exact hmirrors.pollDispatch submission hs
  | flush => exact hmirrors.pollFlush hs
  | await => exact hmirrors.pollAwait hs

/-- A move comes to the same over flows that mirror each other. -/
theorem step [Resumes V S] (run : Run V S) (hs : alike s s') :
    Both alike (run.step flow s) (run.step flow' s') := by
  cases run using Run.step_cases with
  | ended => exact ⟨rfl, hs⟩
  | closing k =>
    obtain ⟨answer, t, t', hclose, hclose', ht⟩ := (hmirrors.close hs).exists_eq
    rcases answer with _ | _ | _ <;>
      simp only [Run.step, Run.close, hclose, hclose', Bool.false_eq_true, if_false] <;>
      exact ⟨rfl, ht⟩
  | undertaking => exact ⟨rfl, hs⟩
  | driving flight tasks k =>
    obtain ⟨hcome, halike⟩ := hmirrors.stage_poll flight.stage hs
    rw [← Flight.poll_snd, ← Flight.poll_snd] at halike
    refine ⟨?_, halike⟩
    show Run.land flight _ (flight.poll flow s).1 = Run.land flight _ (flight.poll flow' s').1
    rw [flight.poll_fst_congr hcome]

theorem drives_step [Resumes V S] :
    Run.Deed.Follows alike (Run.Drives (Run.step (S := S) flow)) (Run.Drives (Run.step flow')) := by
  rintro ⟨run, s⟩ _ _ ⟨rfl, rfl⟩ s' hs
  obtain ⟨hcome, ht⟩ := hmirrors.step run hs
  exact ⟨(run.step flow' s').2, ⟨(congrArg Prod.fst hcome).symm,
    Prod.ext (congrArg Prod.snd hcome).symm rfl⟩, ht⟩

/-- What a poll for an item returns over one flow it returns over the other. -/
theorem returns [Resumes V S] :
    Run.Deed.Follows alike (Run.Returns (S := S) flow) (Run.Returns flow') :=
  hmirrors.drives_step.until _

/-- What a poll for a value returns over one flow it returns over the other. -/
theorem returnsValue [Resumes V S] :
    Run.Deed.Follows alike (Run.ReturnsValue (S := S) flow) (Run.ReturnsValue flow') :=
  hmirrors.returns.until _

end Mirrors

/-- Mirroring goes both ways. -/
theorem Mirrors.symm {flow : Flow V σ ε} {flow' : Flow V σ' ε} {alike : σ → σ' → Prop}
    (hmirrors : flow.Mirrors flow' alike) : flow'.Mirrors flow (Function.swap alike) where
  ready := fun h ↦ ⟨(hmirrors.ready h).1.symm, (hmirrors.ready h).2⟩
  dispatch := fun submission _ _ h ↦
    ⟨(hmirrors.dispatch submission h).1.symm, (hmirrors.dispatch submission h).2⟩
  flush := fun h ↦ ⟨(hmirrors.flush h).1.symm, (hmirrors.flush h).2⟩
  close := fun h ↦ ⟨(hmirrors.close h).1.symm, (hmirrors.close h).2⟩
  reply := fun h ↦ ⟨(hmirrors.reply h).1.symm, (hmirrors.reply h).2⟩

/-! ### What polls keep true -/

namespace Preserves

variable {flow : Flow V σ ε} {such : σ → Prop} (hflow : flow.Preserves such) [Resumes V S]
  {stand stand' : Run.Stand V S σ}
include hflow

/-- What every call keeps true of the flow, a poll for an item does. -/
theorem returns {item : Poll (Option (Item V ε))} (hreturns : Run.Returns flow stand item stand')
    (hstand : such stand.2) : such stand'.2 := by
  refine Run.Until.keeps (P := fun stand ↦ such stand.2) hreturns ?_ hstand
  rintro stand _ _ ⟨rfl, rfl⟩ hstand
  exact stand.1.step_preserves hflow hstand

/-- What every call keeps true of the flow, a poll for a value does. -/
theorem returnsValue {outcome : Poll (Option (Payload V))}
    (hreturns : Run.ReturnsValue flow stand outcome stand') (hstand : such stand.2) :
    such stand'.2 :=
  Run.Until.keeps (P := fun stand ↦ such stand.2) hreturns
    (fun hitem hstand ↦ hflow.returns hitem hstand) hstand

end Preserves

end Flow

end Errand
