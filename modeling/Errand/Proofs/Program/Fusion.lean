import Errand.Proofs.Program.MonadLaws
import Errand.Proofs.Program.Sight

/-!
`map` and `filter` mean what they say (`Course.map_and_filter`): what is seen of the run of a
program that one of them was applied to is what is seen of the run of the program itself, with every
value changed or left out. So no stack of them can be told from the same stack of continuations that
go on with the changed value or with nothing.

They work in different ways on different programs: at once on a value, in the reading of the
response on a request, with one more step on a sequence, and on every part of a concatenation
(`Program.Operates`).
-/

set_option autoImplicit false

namespace Errand

variable {V : ValueTypes} {S σ σ' ε ε' ω α β γ : Type}

/-- Changes the values of a type, or leaves them out. -/
def changed (V : ValueTypes) [Carried V α] [Carried V β] (change : α → Option β)
    (value : Payload V) : Option (Payload V) :=
  ((Carried.recover value).bind change).map Carried.erase

@[simp] theorem changed_erase [Carried V α] [Carried V β] (change : α → Option β) (a : α) :
    changed V change (Carried.erase a) = (change a).map Carried.erase := by
  simp [changed, Carried.recover_erase]

/-- Does with a changed value what is to be done, and nothing with a value left out. -/
def Effect.ofChanged (change : Payload V → Option (Payload V)) (yield : Payload V → Effect V ω)
    (value : Payload V) : Effect V ω :=
  (change value).elim .nothing yield

/-- The answer with its value changed; it is filtered where the value is left out. -/
def Answer.changing (change : Payload V → Option (Payload V)) :
    Answer (Payload V) → Answer (Payload V)
  | success value => (change value).elim filtered success
  | filtered => filtered
  | failure cause => failure cause

theorem conclude_changing (ticket : Ticket) (change : Payload V → Option (Payload V))
    (yield : Payload V → Effect V ω) (answer : Answer (Payload V)) :
    conclude ticket yield (answer.changing change) =
      conclude ticket (Effect.ofChanged change yield) answer := by
  cases answer with
  | success value =>
    cases hvalue : change value <;> simp [Answer.changing, conclude, Effect.ofChanged, hvalue]
  | _ => rfl

namespace Program

section Operates

variable [Closures V S] [Carried V α] [Carried V β]

/-- An operator that changes the values of a program, or leaves them out: it does so at once, or in
the reading of a response, or in a step. -/
structure Operates (change : α → Option β) (op : Program V α S → Program V β S) : Prop where
  done : ∀ a, op (.done a) = ofOption (change a)
  empty : op .empty = .empty
  submit : ∀ request, ∃ request' : Request β, op (.submit request) = .submit request' ∧
    request'.outgoing = request.outgoing ∧
      ∀ response, request'.decode response = (request.decode response).map (·.bind change)
  sequence : ∀ first steps, ∃ step, op (.sequence first steps) = .sequence first (step :: steps) ∧
    ∀ a, resume step (Carried.erase a) = (ofOption (change a) : Program V β S).erase
  concat : ∀ parts, op (.concat parts) = .concat (parts.map op)

theorem operates_map (f : α → β) :
    Operates (V := V) (S := S) (fun a ↦ some (f a)) (map f) where
  done a := rfl
  empty := rfl
  submit request := ⟨_, rfl, rfl, fun response ↦ by
    simp [Request.mapResponse, Option.map_eq_bind]⟩
  sequence first steps := ⟨_, rfl, fun a ↦ by
    simp [stepWith, Carried.recover_erase, ofOption, erase]⟩
  concat parts := by rw [map, mapParts_eq]

theorem operates_filter (keep : α → Bool) :
    Operates (V := V) (S := S) (Option.guard keep) (filter keep) where
  done a := by rcases hkeep : keep a <;> simp [filter, Option.guard, ofOption, hkeep]
  empty := rfl
  submit request := ⟨_, rfl, rfl, fun response ↦ by
    simp [Request.filterResponse, Option.bind_guard]⟩
  sequence first steps := ⟨_, rfl, fun a ↦ by
    rcases hkeep : keep a <;>
      simp [stepWith, Carried.recover_erase, Option.guard, ofOption, erase, hkeep]⟩
  concat parts := by rw [filter, filterParts_eq]

variable {remote : Remote ω} {see : Payload V → Option (Payload V)} {change : α → Option β}
  {op : Program V α S → Program V β S}

omit [Closures V S] [Carried V α] in
theorem evaluate_ofOption [Resumes V S] (answerer : Answerer V ω) (depth : ℕ) (b? : Option β)
    (yield : Payload V → Effect V ω) :
    evaluate answerer depth (ofOption b? : Program V β S).erase yield =
      (b?.map Carried.erase).elim .nothing yield := by
  cases b? <;> rfl

/-- The reply to a request is that to the other one, with its value changed. -/
theorem settle_changing {request : Request α} {request' : Request β}
    (hdecode : ∀ response, request'.decode response = (request.decode response).map (·.bind change))
    (ticket : Ticket) (outcome : Except Failure Response) :
    (Submission.settle (V := V) ⟨ticket, request'.mapResponse Carried.erase⟩ outcome).answer =
      ((Submission.settle ⟨ticket, request.mapResponse Carried.erase⟩ outcome).answer).changing
        (changed V change) := by
  cases outcome with
  | error cause => rfl
  | ok response =>
    simp only [Submission.settle, Submission.reply, Request.answer, Request.mapResponse, hdecode]
    split_ifs
    · rcases request.decode response with error | _ | a
      · rfl
      · rfl
      · rcases hchange : change a with _ | b <;>
          simp [Except.map, Answer.changing, hchange]
    · rfl
    · rfl

/-- A request with its response read in the other way. -/
theorem ask_seen {request : Request α} {request' : Request β}
    (houtgoing : request'.outgoing = request.outgoing)
    (hdecode : ∀ response, request'.decode response = (request.decode response).map (·.bind change))
    (yield : Payload V → Effect V ω) (standing : Standing ω) :
    let a := ask remote.service.answerer (request.mapResponse Carried.erase)
      (Effect.ofChanged (changed V change) yield) standing
    let b := ask remote.service.answerer (request'.mapResponse Carried.erase) yield standing
    a.SeenBelow see see b ∧ b.SeenBelow see see a := by
  have hanswer := settle_changing (V := V) hdecode ⟨standing.tickets⟩
    (remote ⟨standing.tickets⟩ request.outgoing standing.service).1
  simp only [ask, Service.answerer, Remote.service, Request.outgoing_mapResponse, houtgoing]
  rw [hanswer, conclude_changing]
  have hdispatched :
      seen see [.dispatched ⟨⟨standing.tickets⟩, request.mapResponse Carried.erase⟩] =
      seen see [.dispatched ⟨⟨standing.tickets⟩, request'.mapResponse Carried.erase⟩] := by
    simp [seen, Milestone.sight, houtgoing]
  exact ⟨.after (Or.inl ⟨rfl, rfl⟩) hdispatched, .after (Or.inl ⟨rfl, rfl⟩) hdispatched.symm⟩

/-- What an operator makes of a program does with changed values what the program does with them. -/
theorem Operates.evaluate_seen (hop : Operates change op) {p : Program V α S}
    (hp : p.Fits builtKinds) (depth : ℕ) (yield : Payload V → Effect V ω) (standing : Standing ω) :
    (evaluate remote.service.answerer depth p.erase
        (Effect.ofChanged (changed V change) yield) standing).SeenBelow see see
        (evaluate remote.service.answerer (depth + 1) (op p).erase yield standing) ∧
      (evaluate remote.service.answerer depth (op p).erase yield standing).SeenBelow see see
        (evaluate remote.service.answerer (depth + 1) p.erase
          (Effect.ofChanged (changed V change) yield) standing) := by
  induction p generalizing standing with
  | done a =>
    have hyield : ∀ depth, evaluate remote.service.answerer depth (op (.done a)).erase yield =
        Effect.ofChanged (changed V change) yield (Carried.erase a) := by
      intro depth
      rw [hop.done, evaluate_ofOption, Effect.ofChanged, changed_erase]
    rw [hyield, hyield]
    exact ⟨Or.inl ⟨rfl, rfl⟩, Or.inl ⟨rfl, rfl⟩⟩
  | empty =>
    rw [hop.empty]
    exact ⟨Or.inl ⟨rfl, rfl⟩, Or.inl ⟨rfl, rfl⟩⟩
  | submit request =>
    obtain ⟨request', hsubmit, houtgoing, hdecode⟩ := hop.submit request
    rw [hsubmit]
    exact ask_seen houtgoing hdecode yield standing
  | sequence first steps =>
    obtain ⟨step, hsequence, hstep⟩ := hop.sequence first steps
    have hcalled : ∀ depth (a : α), calling remote.service.answerer (depth + 1) step yield
        (Carried.erase a) = Effect.ofChanged (changed V change) yield (Carried.erase a) := by
      intro depth a
      rw [Effect.ofChanged, changed_erase,
        ← evaluate_ofOption (S := S) remote.service.answerer depth (change a) yield, ← hstep]
      rfl
    have hadded : ∀ depth, evaluate remote.service.answerer depth
        (Program.sequence first (step :: steps) : Program V β S).erase yield =
          evaluate remote.service.answerer depth
            (Program.sequence first steps : Program V α S).erase
            (calling remote.service.answerer depth step yield) := fun _ ↦ rfl
    rw [hsequence, hadded, hadded]
    refine ⟨Errand.evaluate_seen builtKinds_sound depth.le_succ hp ?_ standing,
      Errand.evaluate_seen builtKinds_sound depth.le_succ hp ?_ standing⟩
    · rintro _ ⟨a, rfl⟩ standing
      rw [hcalled]
      exact Or.inl ⟨rfl, rfl⟩
    · rintro _ ⟨a, rfl⟩ standing
      cases depth with
      | zero => exact Account.seenBelow_of_cut _
      | succ depth =>
        rw [hcalled]
        exact Or.inl ⟨rfl, rfl⟩
  | concat parts ih =>
    rw [hop.concat, erase, erase, eraseParts_eq, eraseParts_eq, List.map_map]
    have hparts := fits_concat.mp hp
    exact ⟨walkAll_map_seen _ _ (fun p hmem standing ↦ (ih p hmem (hparts p hmem) standing).1)
        standing,
      walkAll_map_seen _ _ (fun p hmem standing ↦ (ih p hmem (hparts p hmem) standing).2)
        standing⟩

end Operates

end Program

/-! ### Changed plans -/

/-- What is seen of the evaluation of a plan with its values changed is what is seen of another. -/
def Plan.Changes [Resumes V S] (answerer : Answerer V ω) (w : ω)
    (change : Payload V → Option (Payload V)) (p q : Plan V S) : Prop :=
  (∀ depth, ∃ depth', (account answerer depth p w).SeenBelow change some
      (account answerer depth' q w)) ∧
    ∀ depth, ∃ depth', (account answerer depth q w).SeenBelow some change
      (account answerer depth' p w)

namespace Plan.Changes

variable [Resumes V S] {answerer : Answerer V ω} {w : ω}
  {change change' : Payload V → Option (Payload V)} {p q r : Plan V S}

/-- One change after the other. -/
theorem bind (hpq : p.Changes answerer w change q) (hqr : q.Changes answerer w change' r) :
    p.Changes answerer w (fun value ↦ (change value).bind change') r := by
  constructor
  · intro depth
    obtain ⟨depth', hq⟩ := hpq.1 depth
    obtain ⟨depth'', hr⟩ := hqr.1 depth'
    exact ⟨depth'', (hq.bind change').trans hr⟩
  · intro depth
    obtain ⟨depth', hq⟩ := hqr.2 depth
    obtain ⟨depth'', hp⟩ := hpq.2 depth'
    exact ⟨depth'', hq.trans (hp.bind change')⟩

/-- The same change of the same plan. -/
theorem alike (hpq : p.Changes answerer w change q) (hpr : p.Changes answerer w change r) :
    q.Changes answerer w some r := by
  constructor
  · intro depth
    obtain ⟨depth', hp⟩ := hpq.2 depth
    obtain ⟨depth'', hr⟩ := hpr.1 depth'
    exact ⟨depth'', hp.trans hr⟩
  · intro depth
    obtain ⟨depth', hp⟩ := hpr.2 depth
    obtain ⟨depth'', hq⟩ := hpq.1 depth'
    exact ⟨depth'', hp.trans hq⟩

end Plan.Changes

section Changes

variable [Closures V S] [Carried V α] [Carried V β] [Carried V γ] {remote : Remote ω} {w : ω}
  {m : Program V α S} {change : α → Option β}

/-- Yielding a value is seen as yielding the changed one where values are changed. -/
theorem yields_seen (change : Payload V → Option (Payload V)) (value : Payload V)
    (standing : Standing ω) :
    (Effect.yields value standing).SeenBelow change some
        (Effect.ofChanged change .yields value standing) ∧
      (Effect.ofChanged change .yields value standing).SeenBelow some change
        (Effect.yields value standing) := by
  rcases hvalue : change value with _ | value' <;>
    exact ⟨Or.inl ⟨by simp [Effect.ofChanged, Effect.yields, Effect.nothing, hvalue], by
      simp [Effect.ofChanged, Effect.yields, Effect.nothing, hvalue, seen, Sight.change,
        Milestone.sight]⟩,
      Or.inl ⟨by simp [Effect.ofChanged, Effect.yields, Effect.nothing, hvalue], by
        simp [Effect.ofChanged, Effect.yields, Effect.nothing, hvalue, seen, Sight.change,
        Milestone.sight]⟩⟩

/-- It is enough that another plan does what this one does when changed values are yielded. -/
theorem changes_of_evaluate (hm : m.Built) {q : Plan V S}
    (hgoes : ∀ depth, ∃ depth', (evaluate remote.service.answerer depth m.erase
      (Effect.ofChanged (changed V change) .yields) ⟨0, w⟩).SeenBelow some some
        (account remote.service.answerer depth' q w))
    (hcomes : ∀ depth, ∃ depth', (account remote.service.answerer depth q w).SeenBelow some some
      (evaluate remote.service.answerer depth' m.erase
        (Effect.ofChanged (changed V change) .yields) ⟨0, w⟩)) :
    m.erase.Changes remote.service.answerer w (changed V change) q := by
  constructor
  · intro depth
    obtain ⟨depth', hq⟩ := hgoes depth
    exact ⟨depth', .trans (evaluate_seen Program.builtKinds_sound le_rfl hm.fits
      (fun value _ standing ↦ (yields_seen _ value standing).1) _) hq⟩
  · intro depth
    obtain ⟨depth', hq⟩ := hcomes depth
    exact ⟨depth', hq.trans (evaluate_seen Program.builtKinds_sound le_rfl hm.fits
      (fun value _ standing ↦ (yields_seen _ value standing).2) _)⟩

theorem Program.Operates.changes {op : Program V α S → Program V β S}
    (hop : Program.Operates change op) (hm : m.Built) :
    m.erase.Changes remote.service.answerer w (changed V change) (op m).erase :=
  changes_of_evaluate hm (fun depth ↦ ⟨depth + 1, (hop.evaluate_seen hm.fits depth .yields _).1⟩)
    fun depth ↦ ⟨depth + 1, (hop.evaluate_seen hm.fits depth .yields _).2⟩

/-- A continuation that goes on with the changed value, or with nothing. -/
theorem changes_flatMap (change : α → Option β) (hm : m.Built) :
    m.erase.Changes remote.service.answerer w (changed V change)
      (m.flatMap fun a ↦ .ofOption (change a)).erase := by
  let f : α → Program V β S := fun a ↦ .ofOption (change a)
  have hcalls : ∀ depth depth' standing, evaluate remote.service.answerer depth m.erase
      (calls remote.service.answerer f (depth' + 1) .yields) standing =
        evaluate remote.service.answerer depth m.erase
          (Effect.ofChanged (changed V change) .yields) standing := by
    intro depth depth' standing
    refine congrFun (evaluate_congr Program.builtKinds_sound depth hm.fits ?_) standing
    rintro _ ⟨a, rfl⟩
    rw [calls_erase, Program.evaluate_ofOption, Effect.ofChanged, changed_erase]
  refine changes_of_evaluate hm (fun depth ↦ ⟨depth + 2, ?_⟩) fun depth ↦ ⟨depth + 1, ?_⟩
  · refine ((?_ : Account.Below _ _).trans
      (evaluate_flatMap (Effect.Carries.refl _) (depth + 1) m _).1).seen
    rw [hcalls]
    exact evaluate_mono depth.le_succ m.erase (Effect.Carries.refl _) _
  · rw [← hcalls (depth + 1) depth]
    exact (evaluate_flatMap (Effect.Carries.refl _) depth m _).2.seen

/-! ### Stacks -/

/-- Maps and filters stacked on a program, each of them as the operator that it is or as the
continuation that does the same, and what all of them change. -/
inductive Program.Stacked (m : Program V α S) :
    ∀ (β : Type) [Carried V β], (α → Option β) → Program V β S → Prop
  | bare : Stacked m α some m
  | map {β γ : Type} [Carried V β] [Carried V γ] {change : α → Option β} {p : Program V β S}
      (f : β → γ) (hp : Stacked m β change p) : Stacked m γ (fun a ↦ (change a).map f) (p.map f)
  | goOn {β γ : Type} [Carried V β] [Carried V γ] {change : α → Option β} {p : Program V β S}
      (f : β → γ) (hp : Stacked m β change p) :
      Stacked m γ (fun a ↦ (change a).map f) (p.flatMap fun b ↦ .done (f b))
  | filter {β : Type} [Carried V β] {change : α → Option β} {p : Program V β S}
      (keep : β → Bool) (hp : Stacked m β change p) :
      Stacked m β (fun a ↦ (change a).filter keep) (p.filter keep)
  | goOnIf {β : Type} [Carried V β] {change : α → Option β} {p : Program V β S}
      (keep : β → Bool) (hp : Stacked m β change p) :
      Stacked m β (fun a ↦ (change a).filter keep)
        (p.flatMap fun b ↦ if keep b then .done b else .empty)

theorem changes_self (hm : m.Built) :
    m.erase.Changes remote.service.answerer w (changed V (some : α → Option α)) m.erase := by
  have hsame : ∀ depth standing, evaluate remote.service.answerer depth m.erase
      (Effect.ofChanged (changed V (some : α → Option α)) .yields) standing =
        evaluate remote.service.answerer depth m.erase .yields standing := by
    intro depth standing
    refine congrFun (evaluate_congr Program.builtKinds_sound depth hm.fits ?_) standing
    rintro _ ⟨a, rfl⟩
    rw [Effect.ofChanged, changed_erase]
    rfl
  refine changes_of_evaluate hm (fun depth ↦ ⟨depth, ?_⟩) fun depth ↦ ⟨depth, ?_⟩ <;>
    · rw [hsame]
      exact Or.inl ⟨rfl, rfl⟩

/-- What two changes do in a row. -/
theorem Plan.Changes.andThen {answerer : Answerer V ω} {p q r : Plan V S} {change : α → Option β}
    {change' : β → Option γ} (hpq : p.Changes answerer w (changed V change) q)
    (hqr : q.Changes answerer w (changed V change') r) {both : α → Option γ}
    (hboth : ∀ a, (change a).bind change' = both a) :
    p.Changes answerer w (changed V both) r := by
  have hchanged : (fun value : Payload V ↦ (changed V change value).bind (changed V change')) =
      changed V both := by
    funext value
    rcases hvalue : (Carried.recover value : Option α) with _ | a
    · simp [changed, hvalue]
    · rcases hchange : change a with _ | b <;> simp [changed, hvalue, ← hboth, hchange,
        Carried.recover_erase]
  exact hchanged ▸ hpq.bind hqr

theorem Program.Stacked.changes {p : Program V β S} (hp : m.Stacked β change p) (hm : m.Built) :
    p.Built ∧ m.erase.Changes remote.service.answerer w (changed V change) p.erase := by
  induction hp with
  | bare => exact ⟨hm, changes_self hm⟩
  | map f hp ih =>
    exact ⟨ih.1.map f, ih.2.andThen ((operates_map f).changes ih.1) fun _ ↦ Option.map_eq_bind.symm⟩
  | goOn f hp ih =>
    exact ⟨ih.1.flatMap fun b ↦ built_done (f b),
      ih.2.andThen (changes_flatMap (fun b ↦ some (f b)) ih.1) fun _ ↦ Option.map_eq_bind.symm⟩
  | filter keep hp ih =>
    exact ⟨ih.1.filter keep,
      ih.2.andThen ((operates_filter keep).changes ih.1) fun _ ↦ Option.bind_guard _ keep⟩
  | goOnIf keep hp ih =>
    have hkept : (fun b ↦ if keep b then done b else empty) =
        fun b ↦ (ofOption (Option.guard keep b) : Program V _ S) := by
      funext b
      rcases hkeep : keep b <;> simp [Option.guard, ofOption, hkeep]
    rw [hkept]
    exact ⟨ih.1.flatMap fun b ↦ built_ofOption _,
      ih.2.andThen (changes_flatMap (Option.guard keep) ih.1) fun _ ↦ Option.bind_guard _ keep⟩

end Changes

/-! ### Runs with their values changed -/

namespace Course

/-- What is seen of one run where its values are changed is what is seen of another: the same calls
with the same values and errors among them, and both come to an end if either does. -/
def SeenChanged [Resumes V S] (flow : Flow V σ ε) (s : σ) (flow' : Flow V σ' ε') (s' : σ')
    (change : Payload V → Option (Payload V)) (p q : Plan V S) : Prop :=
  ∀ sights, ((∃ shown, Shows flow p s shown ∧ seen change shown = sights) ↔
      ∃ shown, Shows flow' q s' shown ∧ seen some shown = sights) ∧
    ((∃ shown, EndsShowing flow p s shown ∧ seen change shown = sights) ↔
      ∃ shown, EndsShowing flow' q s' shown ∧ seen some shown = sights)

section Seen

variable [Resumes V S] {flow : Flow V σ ε} {s : σ} {flow' : Flow V σ' ε'} {s' : σ'}
  {answerer : Answerer V ω} {w : ω} {see see' : Payload V → Option (Payload V)} {p q : Plan V S}

theorem shows_seen (hserves : flow.Serves answerer w s) (hserves' : flow'.Serves answerer w s')
    (hpq : ∀ depth, ∃ depth', (account answerer depth p w).SeenBelow see see'
      (account answerer depth' q w)) {shown : List (Milestone V)} (hshown : Shows flow p s shown) :
    ∃ shown', Shows flow' q s' shown' ∧ seen see' shown' = seen see shown := by
  obtain ⟨depth, hshort⟩ := (shows_iff hserves p shown).mp hshown
  obtain ⟨depth', hseen⟩ := hpq depth
  have hsights : seen see shown <+: seen see' (account answerer depth' q w).trace :=
    ((hshort.map _).filterMap _).trans hseen.prefix_seen
  obtain ⟨shown', hshown', heq⟩ := (prefix_seen_iff see' _).mp hsights
  exact ⟨shown', (shows_iff hserves' q shown').mpr ⟨depth', hshown'⟩, heq.symm⟩

theorem endsShowing_seen (hserves : flow.Serves answerer w s)
    (hserves' : flow'.Serves answerer w s')
    (hpq : ∀ depth, ∃ depth', (account answerer depth p w).SeenBelow see see'
      (account answerer depth' q w)) {shown : List (Milestone V)}
    (hshown : EndsShowing flow p s shown) :
    ∃ shown', EndsShowing flow' q s' shown' ∧ seen see' shown' = seen see shown := by
  obtain ⟨depth, huncut, rfl⟩ := (endsShowing_iff hserves p shown).mp hshown
  obtain ⟨depth', ⟨hfinish, hseen⟩ | ⟨hcut, -⟩⟩ := hpq depth
  · exact ⟨_, (endsShowing_iff hserves' q _).mpr ⟨depth', hfinish ▸ huncut, rfl⟩, hseen.symm⟩
  · exact absurd hcut huncut

theorem seenChanged_of_changes {change : Payload V → Option (Payload V)}
    (hserves : flow.Serves answerer w s) (hserves' : flow'.Serves answerer w s')
    (hpq : p.Changes answerer w change q) : SeenChanged flow s flow' s' change p q := by
  rintro sights
  refine ⟨⟨?_, ?_⟩, ?_, ?_⟩
  · rintro ⟨shown, hshown, rfl⟩
    exact shows_seen hserves hserves' hpq.1 hshown
  · rintro ⟨shown, hshown, rfl⟩
    exact shows_seen hserves' hserves hpq.2 hshown
  · rintro ⟨shown, hshown, rfl⟩
    exact endsShowing_seen hserves hserves' hpq.1 hshown
  · rintro ⟨shown, hshown, rfl⟩
    exact endsShowing_seen hserves' hserves hpq.2 hshown

end Seen

variable [Closures V S] [Carried V α] {flow : Flow V σ ε} {s : σ} {flow' : Flow V σ' ε'} {s' : σ'}
  {remote : Remote ω} {w : ω}

/-- What is seen of the run of a program that was mapped or filtered is what is seen of the run of
the program itself, over any flow that serves the same service, with the values changed or left out.
Stacks of operators, any of which may be a continuation instead, are seen alike if what they change
comes to the same. -/
theorem map_and_filter (hserves : flow.Serves remote.service.answerer w s)
    (hserves' : flow'.Serves remote.service.answerer w s') {m : Program V α S} (hm : m.Built) :
    (∀ (β : Type) [Carried V β] (f : α → β),
        SeenChanged flow s flow' s' (changed V fun a ↦ some (f a)) m.erase (m.map f).erase) ∧
      (∀ keep : α → Bool,
        SeenChanged flow s flow' s' (changed V (Option.guard keep)) m.erase
          (m.filter keep).erase) ∧
      ∀ (β : Type) [Carried V β] (change : α → Option β) (p q : Program V β S),
        m.Stacked β change p → m.Stacked β change q →
          SeenChanged flow s flow' s' (changed V change) m.erase p.erase ∧
            SeenChanged flow s flow' s' some p.erase q.erase := by
  refine ⟨?_, ?_, ?_⟩
  · intro β _ f
    exact seenChanged_of_changes hserves hserves' ((Program.operates_map f).changes hm)
  · intro keep
    exact seenChanged_of_changes hserves hserves' ((Program.operates_filter keep).changes hm)
  · intro β _ change p q hp hq
    have hpm : m.erase.Changes remote.service.answerer w (changed V change) p.erase :=
      (hp.changes hm).2
    have hqm : m.erase.Changes remote.service.answerer w (changed V change) q.erase :=
      (hq.changes hm).2
    exact ⟨seenChanged_of_changes hserves hserves' hpm,
      seenChanged_of_changes hserves hserves' (hpm.alike hqm)⟩

/-- A map and a filter over a script that makes its caller wait, and the continuations that do the
same over a loopback line. -/
theorem map_and_filter_of_waiting_and_loopback :
    let remote : Remote ℕ := fun _ _ n ↦ (.ok (.ok [n.toUInt8]), n + 1)
    let service : TimedService values ℕ := fun _ ↦ remote.service
    let waiting : EventLoop values ℕ := .start 5 fun _ ↦ [.wait, .wait]
    let opened : EventLoop values ℕ := { waiting with lines := #[.fresh] }
    let request : Request UInt8 :=
      { route := ⟨.get, "/"⟩, decode := fun response ↦ .ok response.body.head?, label := "Get" }
    let m : Program values UInt8 :=
      (Program.submit request).flatMap fun n ↦ .concat [.done n, .submit request, .empty]
    let p := (m.map (· + 1)).filter (· != 7)
    let q := (m.flatMap fun n ↦ .done (n + 1)).flatMap fun n ↦ if n != 7 then .done n else .empty
    m.Built ∧ SeenChanged (EventLoop.flow service .caller .script) waiting
      (EventLoop.flow service .caller (.line 0)) opened some p.erase q.erase := by
  intro remote service waiting opened request m p q
  have hpatient : waiting.script.Patient := by
    intro call cue hcue
    have hwait : cue ∈ [Cue.wait, Cue.wait] := hcue
    simp_all
  have hopened : (EventLoop.flow service .caller (.line 0)).Serves
      (service opened.clock).answerer opened.service opened :=
    EventLoop.serves_line service .caller rfl
  have hm : m.Built := by
    refine (Program.built_submit request).flatMap fun n ↦ Program.Built.concat ?_
    simp [Program.built_done, Program.built_submit, Program.built_empty]
  have hfused : m.Stacked UInt8 _ p := .filter _ (.map (· + 1) .bare)
  have hcontinued : m.Stacked UInt8 _ q := .goOnIf (· != 7) (.goOn (· + 1) .bare)
  exact ⟨hm, ((map_and_filter (EventLoop.serves_script service .caller hpatient rfl) hopened hm).2.2
    UInt8 _ p q hfused hcontinued).2⟩

end Course

end Errand
