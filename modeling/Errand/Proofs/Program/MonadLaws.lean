import Errand.Proofs.Program.Typing
import Errand.Proofs.Run.Adequacy

/-!
Programs make up a monad as far as their runs show (`monad_laws`). A program that is continued does
what it does with the continuation as its last step (`evaluate_flatMap`), whatever values it has:
only for the right identity do they matter, where a step takes a value apart and puts it together
again. A continuation applied to a value that stands in a program is there at once, where a step
would first have to be called, so the two sides of a law agree up to the depth at which their
evaluations are cut off (`Plan.Trails`).
-/

set_option autoImplicit false

namespace Errand

variable {V : ValueTypes} {S σ σ' ε ε' ω α β γ : Type}

/-- The evaluation of a plan is carried on by that of another at some greater depth. -/
def Plan.Trails [Resumes V S] (answerer : Answerer V ω) (p q : Plan V S) : Prop :=
  ∃ n, ∀ depth yield standing, (evaluate answerer depth p yield standing).Below
    (evaluate answerer (depth + n) q yield standing)

/-! ### Continuations as steps -/

section Evaluation

variable [Closures V S] [Carried V α] [Carried V β] [Carried V γ]

/-- What a continuation does with a value as a step, cut off at a depth. -/
def calls (answerer : Answerer V ω) (f : α → Program V β S) (depth : ℕ)
    (yield : Payload V → Effect V ω) : Payload V → Effect V ω :=
  calling answerer depth (Program.stepWith V fun a ↦ (f a).erase) yield

variable {answerer : Answerer V ω} {f : α → Program V β S} {yield yield' : Payload V → Effect V ω}

theorem calls_erase (f : α → Program V β S) (depth : ℕ) (yield : Payload V → Effect V ω) (a : α) :
    calls answerer f (depth + 1) yield (Carried.erase a) =
      evaluate answerer depth (f a).erase yield := by
  simp [calls, calling, Program.stepWith, Carried.recover_erase, evaluate]

theorem calls_carries (f : α → Program V β S) {depth depth' : ℕ} (hdepth : depth ≤ depth')
    (hyield : Effect.Carries yield yield') :
    Effect.Carries (calls answerer f depth yield) (calls answerer f depth' yield') :=
  calling_carries hdepth _ _ _ hyield

/-- A program that is continued does what it does with the continuation as its last step. -/
theorem evaluate_flatMap (hyield : Effect.Carries yield yield') (depth : ℕ) (p : Program V α S)
    (standing : Standing ω) :
    (evaluate answerer depth p.erase (calls answerer f depth yield) standing).Below
        (evaluate answerer (depth + 1) (p.flatMap f).erase yield' standing) ∧
      (evaluate answerer depth (p.flatMap f).erase yield standing).Below
        (evaluate answerer (depth + 1) p.erase (calls answerer f (depth + 1) yield') standing) := by
  have hsteps : ∀ (plan : Plan V S) standing, (evaluate answerer depth plan yield standing).Below
      (evaluate answerer (depth + 1) plan yield' standing) :=
    fun plan standing ↦ evaluate_mono (Nat.le_succ depth) plan hyield standing
  induction p generalizing standing with
  | done a =>
    constructor
    · cases depth with
      | zero => exact Account.below_of_cut _
      | succ depth =>
        show (calls answerer f (depth + 1) yield (Carried.erase a) standing).Below _
        rw [calls_erase]
        exact evaluate_mono (by omega) (f a).erase hyield standing
    · show Account.Below _ (calls answerer f (depth + 1) yield' (Carried.erase a) standing)
      rw [calls_erase]
      exact evaluate_mono le_rfl (f a).erase hyield standing
  | empty => exact ⟨Account.Below.refl _, Account.Below.refl _⟩
  | submit request =>
    exact ⟨hsteps ((Program.submit request).flatMap f).erase standing,
      hsteps ((Program.submit request).flatMap f).erase standing⟩
  | sequence first steps =>
    exact ⟨hsteps ((Program.sequence first steps).flatMap f).erase standing,
      hsteps ((Program.sequence first steps).flatMap f).erase standing⟩
  | concat parts ih =>
    have hleft : (Program.concat parts).erase = .concat (parts.map Program.erase) := by
      rw [Program.erase, Program.eraseParts_eq]
    have hright : ((Program.concat parts).flatMap f).erase =
        .concat (parts.map fun p ↦ (p.flatMap f).erase) := by
      simp [Program.flatMap, Program.erase, Function.comp_def]
    rw [hleft, hright]
    exact ⟨walkAll_below _ _ (fun p hp standing ↦ (ih p hp standing).1) standing,
      walkAll_below _ _ (fun p hp standing ↦ (ih p hp standing).2) standing⟩

/-! ### The two sides of each law -/

/-- A step that yields its value again does nothing. -/
theorem evaluate_calls_done {service : Service V ω} {m : Program V α S} (hm : m.Built)
    (depth depth' : ℕ) (yield : Payload V → Effect V ω) :
    evaluate service.answerer depth m.erase
        (calls service.answerer (.done : α → Program V α S) (depth' + 1) yield) =
      evaluate service.answerer depth m.erase yield := by
  refine evaluate_congr Program.builtKinds_sound depth hm.fits ?_
  rintro _ ⟨a, rfl⟩
  exact calls_erase _ depth' yield a

theorem trails_flatMap_done {service : Service V ω} {m : Program V α S} (hm : m.Built) :
    (m.flatMap .done).erase.Trails service.answerer m.erase ∧
      m.erase.Trails service.answerer (m.flatMap .done).erase := by
  constructor
  · refine ⟨1, fun depth yield standing ↦ ?_⟩
    rw [← evaluate_calls_done hm (depth + 1) depth yield]
    exact (evaluate_flatMap (Effect.Carries.refl yield) depth m standing).2
  · refine ⟨2, fun depth yield standing ↦ ?_⟩
    have hdeeper : (evaluate service.answerer depth m.erase yield standing).Below
        (evaluate service.answerer (depth + 1) m.erase yield standing) :=
      evaluate_mono (Nat.le_succ depth) m.erase (Effect.Carries.refl yield) standing
    rw [← evaluate_calls_done hm (depth + 1) depth yield] at hdeeper
    exact hdeeper.trans
      (evaluate_flatMap (Effect.Carries.refl yield) (depth + 1) m standing).1

variable {g : β → Program V γ S}

theorem recover_cases (value : Payload V) :
    Carried.recover (α := α) value = none ∨ ∃ a : α, value = Carried.erase a := by
  rcases hvalue : Carried.recover (α := α) value with _ | a
  · exact Or.inl rfl
  · exact Or.inr ⟨a, Carried.erase_of_recover hvalue⟩

theorem calls_mistyped {value : Payload V} (hvalue : Carried.recover (α := α) value = none)
    (depth : ℕ) : calls answerer f (depth + 1) yield value = fun _ ↦ ⟨[.mistyped], .mistyped⟩ := by
  simp [calls, calling, Program.stepWith, hvalue, walk]

/-- Two continuations in a row do what they come to when put together. -/
theorem calls_calls (hyield : Effect.Carries yield yield') (depth : ℕ) :
    Effect.Carries (calls answerer f depth (calls answerer g depth yield))
        (calls answerer (fun a ↦ (f a).flatMap g) (depth + 2) yield') ∧
      Effect.Carries (calls answerer (fun a ↦ (f a).flatMap g) depth yield)
        (calls answerer f (depth + 1) (calls answerer g (depth + 1) yield')) := by
  cases depth with
  | zero => exact ⟨fun _ _ ↦ Account.below_of_cut _, fun _ _ ↦ Account.below_of_cut _⟩
  | succ depth =>
    constructor
    · intro value standing
      rcases recover_cases (α := α) value with hvalue | ⟨a, rfl⟩
      · rw [calls_mistyped hvalue, calls_mistyped hvalue]
        exact Account.Below.refl _
      · rw [calls_erase, calls_erase]
        have hdeeper : (evaluate answerer depth (f a).erase
            (calls answerer g (depth + 1) yield) standing).Below
            (evaluate answerer (depth + 1) (f a).erase
              (calls answerer g (depth + 1) yield) standing) :=
          evaluate_mono (Nat.le_succ depth) _ (Effect.Carries.refl _) standing
        exact hdeeper.trans (evaluate_flatMap hyield (depth + 1) (f a) standing).1
    · intro value standing
      rcases recover_cases (α := α) value with hvalue | ⟨a, rfl⟩
      · rw [calls_mistyped hvalue, calls_mistyped hvalue]
        exact Account.Below.refl _
      · rw [calls_erase, calls_erase]
        have hdeeper : (evaluate answerer (depth + 1) (f a).erase
            (calls answerer g (depth + 1) yield') standing).Below
            (evaluate answerer (depth + 1) (f a).erase
              (calls answerer g (depth + 2) yield') standing) :=
          evaluate_mono le_rfl _
            (calls_carries g (Nat.le_succ _) (Effect.Carries.refl _)) standing
        exact (evaluate_flatMap hyield depth (f a) standing).2.trans hdeeper

theorem trails_flatMap_flatMap (m : Program V α S) :
    ((m.flatMap f).flatMap g).erase.Trails answerer (m.flatMap fun a ↦ (f a).flatMap g).erase ∧
      (m.flatMap fun a ↦ (f a).flatMap g).erase.Trails answerer
        ((m.flatMap f).flatMap g).erase := by
  constructor
  · refine ⟨5, fun depth yield standing ↦ ?_⟩
    have hyield := Effect.Carries.refl yield
    have hjoined : Effect.Carries
        (calls answerer f (depth + 2) (calls answerer g (depth + 1) yield))
        (calls answerer (fun a ↦ (f a).flatMap g) (depth + 4) yield) := fun value standing ↦
      (calls_carries f le_rfl (calls_carries g (Nat.le_succ _) hyield) value standing).trans
        ((calls_calls hyield (depth + 2)).1 value standing)
    refine (evaluate_flatMap hyield depth (m.flatMap f) standing).2.trans ?_
    refine (evaluate_flatMap (Effect.Carries.refl _) (depth + 1) m standing).2.trans ?_
    refine (evaluate_mono (Nat.le_add_right (depth + 2) 2) m.erase hjoined standing).trans ?_
    exact (evaluate_flatMap hyield (depth + 4) m standing).1
  · refine ⟨4, fun depth yield standing ↦ ?_⟩
    have hyield := Effect.Carries.refl yield
    have hparted : Effect.Carries (calls answerer (fun a ↦ (f a).flatMap g) (depth + 1) yield)
        (calls answerer f (depth + 2) (calls answerer g (depth + 2) yield)) :=
      (calls_calls hyield (depth + 1)).2
    refine (evaluate_flatMap hyield depth m standing).2.trans ?_
    refine (evaluate_mono (Nat.le_succ (depth + 1)) m.erase hparted standing).trans ?_
    refine (evaluate_flatMap (calls_carries g (Nat.le_succ (depth + 2)) hyield) (depth + 2) m
      standing).1.trans ?_
    exact (evaluate_flatMap hyield (depth + 3) (m.flatMap f) standing).1

end Evaluation

/-! ### Runs that show the same -/

namespace Course

/-- Two runs show the same requests, under the same tickets, with the same values and errors among
them, and come to an end if either does. -/
def RunsAlike [Resumes V S] (flow : Flow V σ ε) (s : σ) (flow' : Flow V σ' ε') (s' : σ')
    (p q : Plan V S) : Prop :=
  ∀ shown, (Shows flow p s shown ↔ Shows flow' q s' shown) ∧
    (EndsShowing flow p s shown ↔ EndsShowing flow' q s' shown)

variable {flow : Flow V σ ε} {s : σ} {flow' : Flow V σ' ε'} {s' : σ'}

theorem runsAlike_of_trails [Resumes V S] {answerer : Answerer V ω} {w : ω}
    (hserves : flow.Serves answerer w s) (hserves' : flow'.Serves answerer w s') {p q : Plan V S}
    (htrails : p.Trails answerer q ∧ q.Trails answerer p) : RunsAlike flow s flow' s' p q := by
  have hshown : ∀ {p q : Plan V S}, p.Trails answerer q → ∀ {shown},
      (∃ depth, shown <+: (account answerer depth p w).trace) →
        ∃ depth, shown <+: (account answerer depth q w).trace := by
    rintro p q ⟨n, hpq⟩ shown ⟨depth, hshown⟩
    exact ⟨depth + n, hshown.trans (hpq depth _ _).prefix_trace⟩
  have hended : ∀ {p q : Plan V S}, p.Trails answerer q → ∀ {shown},
      (∃ depth, (account answerer depth p w).finish ≠ .cut ∧
        (account answerer depth p w).trace = shown) →
        ∃ depth, (account answerer depth q w).finish ≠ .cut ∧
          (account answerer depth q w).trace = shown := by
    rintro p q ⟨n, hpq⟩ shown ⟨depth, huncut, htrace⟩
    have hsame : account answerer depth p w = account answerer (depth + n) q w :=
      (hpq depth _ _).resolve_right fun hcut ↦ huncut hcut.1
    rw [hsame] at huncut htrace
    exact ⟨depth + n, huncut, htrace⟩
  intro shown
  rw [shows_iff hserves, shows_iff hserves', endsShowing_iff hserves, endsShowing_iff hserves']
  exact ⟨⟨hshown htrails.1, hshown htrails.2⟩, ⟨hended htrails.1, hended htrails.2⟩⟩

/-- The monad laws, as far as runs show: over flows that serve the same service from the same state
on, the two sides of each law make the same requests under the same tickets, and their items are
the same. Only for the right identity must the program have been built with the operators. -/
theorem monad_laws [Closures V S] [Carried V α] [Carried V β] [Carried V γ]
    {service : Service V ω} {w : ω} (hserves : flow.Serves service.answerer w s)
    (hserves' : flow'.Serves service.answerer w s') :
    (∀ (a : α) (f : α → Program V β S),
        RunsAlike flow s flow' s' ((Program.done a).flatMap f).erase (f a).erase) ∧
      (∀ m : Program V α S, m.Built →
        RunsAlike flow s flow' s' (m.flatMap .done).erase m.erase) ∧
      ∀ (m : Program V α S) (f : α → Program V β S) (g : β → Program V γ S),
        RunsAlike flow s flow' s' ((m.flatMap f).flatMap g).erase
          (m.flatMap fun a ↦ (f a).flatMap g).erase := by
  refine ⟨?_, ?_, ?_⟩
  · intro a f
    have hrefl : (f a).erase.Trails service.answerer (f a).erase :=
      ⟨0, fun _ _ _ ↦ Account.Below.refl _⟩
    exact runsAlike_of_trails hserves hserves' ⟨hrefl, hrefl⟩
  · intro m hm
    exact runsAlike_of_trails hserves hserves' (trails_flatMap_done hm)
  · intro m f g
    exact runsAlike_of_trails hserves hserves' (trails_flatMap_flatMap m)

/-- A script that makes its caller wait and a loopback line serve the same service alike. -/
theorem monad_laws_of_waiting_and_loopback :
    let service : TimedService values ℕ := fun _ _ n ↦ (.ok (.ok [n.toUInt8]), n + 1)
    let waiting : EventLoop values ℕ := .start 5 fun _ ↦ [.wait, .wait]
    let opened : EventLoop values ℕ := { waiting with lines := #[.fresh] }
    let request : Request UInt8 :=
      { route := ⟨.get, "/"⟩, decode := fun response ↦ .ok response.body.head?, label := "Get" }
    let m : Program values UInt8 :=
      ((Program.submit request).filter (· ≠ 7)).flatMap fun n ↦
        .concat [.done n, .submit request, .ofList [n, n + 1]]
    m.Built ∧ RunsAlike (EventLoop.flow service .caller .script) waiting
      (EventLoop.flow service .caller (.line 0)) opened (m.flatMap .done).erase m.erase := by
  intro service waiting opened request m
  have hpatient : waiting.script.Patient := by
    intro call cue hcue
    have hwait : cue ∈ [Cue.wait, Cue.wait] := hcue
    simp_all
  have hopened : (EventLoop.flow service .caller (.line 0)).Serves
      (service opened.clock).answerer opened.service opened :=
    EventLoop.serves_line service .caller rfl
  have hm : m.Built := by
    refine ((Program.built_submit request).filter _).flatMap fun n ↦ Program.Built.concat ?_
    simp [Program.built_done, Program.built_submit, Program.built_ofList]
  exact ⟨hm, (monad_laws (β := UInt8) (γ := UInt8)
    (EventLoop.serves_script service .caller hpatient rfl) hopened).2.1 m hm⟩

end Course

end Errand
