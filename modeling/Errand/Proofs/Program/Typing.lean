import Errand.Program
import Errand.Proofs.Evaluation

/-!
Programs built with the operators, and the values that come out of them. `Program.Built` says that
a program was made with the operators, and so was every program that its continuations make. These
may make programs for ever, so it is the largest such property (`Program.built_iff`).

Values lose their types on the way through a plan. `Plan.Fits` says which values come out of a
plan, given what continuations take and what comes out of those, and that no value is of another
type than it should be. The plan of a built program fits the type of its values
(`Program.Built.fits`). What is done with other values makes no difference to the evaluation of a
plan (`evaluate_congr`).
-/

set_option autoImplicit false

namespace Errand

variable {V : ValueTypes} {S ω α β : Type}

/-! ### Built programs -/

namespace Program

section Built

variable [Closures V S] [Carried V α] [Carried V β]

/-- Some of the programs, whatever the type of their values. -/
abbrev Family (V : ValueTypes) (S : Type) := ∀ (α : Type) [Carried V α], Program V α S → Prop

omit [Closures V S] [Carried V α] in
/-- A value stands in a program, and is there when an operator is applied to it. -/
inductive Holds : Program V α S → α → Prop
  | done (a : α) : Holds (.done a) a
  | concat {parts : List (Program V α S)} {p : Program V α S} {a : α} (hmem : p ∈ parts)
      (hp : Holds p a) : Holds (.concat parts) a

/-- Made with the operators, the continuations making programs that are `Later`. A continuation has
been called with the values that were there. -/
inductive Made (Later : Family V S) : Family V S
  | done {α : Type} [Carried V α] (a : α) : Made Later α (.done a)
  | empty {α : Type} [Carried V α] : Made Later α .empty
  | submit {α : Type} [Carried V α] (request : Request α) : Made Later α (.submit request)
  | concat {α : Type} [Carried V α] {parts : List (Program V α S)}
      (hparts : ∀ p ∈ parts, Made Later α p) : Made Later α (.concat parts)
  | map {α β : Type} [Carried V α] [Carried V β] (f : α → β) {p : Program V α S}
      (hp : Made Later α p) : Made Later β (p.map f)
  | filter {α : Type} [Carried V α] (keep : α → Bool) {p : Program V α S}
      (hp : Made Later α p) : Made Later α (p.filter keep)
  | flatMap {α β : Type} [Carried V α] [Carried V β] {f : α → Program V β S} {p : Program V α S}
      (hp : Made Later α p) (hheld : ∀ a, p.Holds a → Made Later β (f a))
      (hf : ∀ a, Later β (f a)) : Made Later β (p.flatMap f)

theorem Made.mono {Later Later' : Family V S}
    (hlater : ∀ (β : Type) [Carried V β] (q : Program V β S), Later β q → Later' β q)
    {p : Program V α S} (hp : Made Later α p) : Made Later' α p := by
  induction hp with
  | done a => exact .done a
  | empty => exact .empty
  | submit request => exact .submit request
  | concat _ ih => exact .concat ih
  | map f _ ih => exact .map f ih
  | filter keep _ ih => exact .filter keep ih
  | flatMap _ _ hf ih ihheld => exact .flatMap ih ihheld fun a ↦ hlater _ _ (hf a)

/-- Made with the operators, and so are the programs that the continuations make. -/
def Built (p : Program V α S) : Prop :=
  ∃ Later : Family V S,
    (∀ (β : Type) [Carried V β] (q : Program V β S), Later β q → Made Later β q) ∧ Made Later α p

theorem built_iff {p : Program V α S} : p.Built ↔ Made (fun _ _ q ↦ q.Built) α p := by
  constructor
  · rintro ⟨Later, hlater, hp⟩
    exact hp.mono fun _ _ q hq ↦ ⟨Later, hlater, hlater _ q hq⟩
  · intro hp
    refine ⟨fun _ _ q ↦ q.Built, ?_, hp⟩
    rintro β _ q ⟨Later, hlater, hq⟩
    exact hq.mono fun _ _ q hq ↦ ⟨Later, hlater, hlater _ q hq⟩

theorem Built.concat {parts : List (Program V α S)} (hparts : ∀ p ∈ parts, p.Built) :
    (Program.concat parts).Built :=
  built_iff.mpr (.concat fun p hp ↦ built_iff.mp (hparts p hp))

theorem Built.map {p : Program V α S} (hp : p.Built) (f : α → β) : (p.map f).Built :=
  built_iff.mpr (.map f (built_iff.mp hp))

theorem Built.filter {p : Program V α S} (hp : p.Built) (keep : α → Bool) :
    (p.filter keep).Built :=
  built_iff.mpr (.filter keep (built_iff.mp hp))

theorem Built.flatMap {p : Program V α S} (hp : p.Built) {f : α → Program V β S}
    (hf : ∀ a, (f a).Built) : (p.flatMap f).Built :=
  built_iff.mpr (.flatMap (built_iff.mp hp) (fun a _ ↦ built_iff.mp (hf a)) hf)

theorem built_done (a : α) : (done a : Program V α S).Built := built_iff.mpr (.done a)

theorem built_empty : (empty : Program V α S).Built := built_iff.mpr .empty

theorem built_submit (request : Request α) : (submit request : Program V α S).Built :=
  built_iff.mpr (.submit request)

theorem built_ofOption (a? : Option α) : (ofOption a? : Program V α S).Built := by
  cases a? with
  | none => exact built_empty
  | some a => exact built_done a

theorem built_ofParts {parts : List (Program V α S)} (hparts : ∀ p ∈ parts, p.Built) :
    (ofParts parts).Built := by
  unfold ofParts
  split
  · exact built_empty
  · exact hparts _ (List.mem_singleton_self _)
  · exact Built.concat hparts

theorem built_ofList (values : List α) : (ofList values : Program V α S).Built := by
  refine built_ofParts ?_
  intro p hp
  obtain ⟨a, -, rfl⟩ := List.mem_map.mp hp
  exact built_done a

end Built

end Program

/-! ### The values of a plan -/

/-- Which values a continuation takes, and which values then come out of it. -/
abbrev Kinds (V : ValueTypes) (S : Type) := S → (Payload V → Prop) → (Payload V → Prop) → Prop

/-- Values that pass through the steps, of which the one added last stands in front. -/
def Passes (kinds : Kinds V S) (into : Payload V → Prop) : List S → (Payload V → Prop) → Prop
  | [], out => into = out
  | step :: steps, out => ∃ between, Passes kinds into steps between ∧ kinds step between out

mutual

/-- Only such values come out of a plan. -/
def Plan.Fits (kinds : Kinds V S) : Plan V S → (Payload V → Prop) → Prop
  | .done value, out => out value
  | .empty, _ => True
  | .submit request, out =>
    ∀ response value, request.decode response = .ok (some value) → out value
  | .sequence first steps, out => ∃ into, first.Fits kinds into ∧ Passes kinds into steps out
  | .concat parts, out => Plan.FitsAll kinds parts out
  | .mistyped, _ => False

def Plan.FitsAll (kinds : Kinds V S) : List (Plan V S) → (Payload V → Prop) → Prop
  | [], _ => True
  | part :: parts, out => part.Fits kinds out ∧ Plan.FitsAll kinds parts out

end

/-- Continuations are as the kinds say. -/
def Kinds.Sound [Resumes V S] (kinds : Kinds V S) : Prop :=
  ∀ step into out, kinds step into out → ∀ value, into value →
    (resume step value : Plan V S).Fits kinds out

/-! ### The values of built programs -/

/-- A value of this type. -/
def Payload.IsA (α : Type) [Carried V α] (value : Payload V) : Prop :=
  ∃ a : α, value = Carried.erase a

namespace Program

section Fits

variable [Closures V S] [Carried V α] [Carried V β] {kinds : Kinds V S}

/-- The plan of a program fits the type of its values. -/
def Fits (kinds : Kinds V S) (p : Program V α S) : Prop := p.erase.Fits kinds (Payload.IsA α)

omit [Closures V S] in
theorem fits_submit (request : Request α) : Fits kinds (submit request : Program V α S) := by
  intro response value hvalue
  simp only [Request.mapResponse] at hvalue
  rcases hdecode : request.decode response with error | _ | a
  · simp [hdecode, Except.map] at hvalue
  · simp [hdecode, Except.map] at hvalue
  · simp only [hdecode, Except.map, Option.map_some, Except.ok.injEq, Option.some.injEq] at hvalue
    exact ⟨a, hvalue.symm⟩

omit [Closures V S] in
theorem fits_concat {parts : List (Program V α S)} :
    Fits kinds (concat parts) ↔ ∀ p ∈ parts, p.Fits kinds := by
  induction parts with
  | nil => simp [Fits, erase, eraseParts, Plan.Fits, Plan.FitsAll]
  | cons p parts ih =>
    rw [List.forall_mem_cons, ← ih]
    rfl

omit [Closures V S] in
theorem fits_sequence_cons {first : Plan V S} {steps : List S} {step : S}
    (hfits : Fits kinds (sequence first steps : Program V α S))
    (hstep : kinds step (Payload.IsA α) (Payload.IsA β)) :
    Fits kinds (sequence first (step :: steps) : Program V β S) := by
  obtain ⟨into, hfirst, hsteps⟩ := hfits
  exact ⟨into, hfirst, Payload.IsA α, hsteps, hstep⟩

theorem Fits.map {f : α → β} (hstep : kinds (stepWith V fun a ↦ .done (Carried.erase (f a)))
    (Payload.IsA α) (Payload.IsA β)) {p : Program V α S} (hp : p.Fits kinds) :
    (p.map f).Fits kinds := by
  induction p with
  | done a => exact ⟨f a, rfl⟩
  | empty => trivial
  | submit request => exact fits_submit (request.mapResponse f)
  | sequence first steps => exact fits_sequence_cons hp hstep
  | concat parts ih =>
    rw [Program.map, mapParts_eq, fits_concat, List.forall_mem_map]
    exact fun p hmem ↦ ih p hmem (fits_concat.mp hp p hmem)

theorem Fits.filter {keep : α → Bool} (hstep : kinds (stepWith V fun a ↦
    if keep a then .done (Carried.erase a) else .empty) (Payload.IsA α) (Payload.IsA α))
    {p : Program V α S} (hp : p.Fits kinds) : (p.filter keep).Fits kinds := by
  induction p with
  | done a =>
    rw [Program.filter]
    split_ifs
    · exact hp
    · trivial
  | empty => trivial
  | submit request => exact fits_submit (request.filterResponse keep)
  | sequence first steps => exact fits_sequence_cons hp hstep
  | concat parts ih =>
    rw [Program.filter, filterParts_eq, fits_concat, List.forall_mem_map]
    exact fun p hmem ↦ ih p hmem (fits_concat.mp hp p hmem)

theorem Fits.flatMap {f : α → Program V β S}
    (hstep : kinds (stepWith V fun a ↦ (f a).erase) (Payload.IsA α) (Payload.IsA β))
    {p : Program V α S} (hf : ∀ a, p.Holds a → (f a).Fits kinds) (hp : p.Fits kinds) :
    (p.flatMap f).Fits kinds := by
  induction p with
  | done a => exact hf a (.done a)
  | empty => trivial
  | submit request =>
    exact ⟨Payload.IsA α, fits_submit request, Payload.IsA α, rfl, hstep⟩
  | sequence first steps => exact fits_sequence_cons hp hstep
  | concat parts ih =>
    rw [Program.flatMap, flatMapParts_eq, fits_concat, List.forall_mem_map]
    intro p hmem
    exact ih p hmem (fun a ha ↦ hf a (.concat hmem ha)) (fits_concat.mp hp p hmem)

/-- The continuations that go on with built programs, from one type to another. -/
def builtKinds : Kinds V S := fun step into out ↦
  ∃ (α β : Type) (_ : Carried V α) (_ : Carried V β) (next : α → Program V β S),
    (∀ a, (next a).Built) ∧ step = stepWith V (fun a ↦ (next a).erase) ∧
      into = Payload.IsA α ∧ out = Payload.IsA β

theorem builtKinds_stepWith (next : α → Program V β S) (hnext : ∀ a, (next a).Built) :
    (builtKinds : Kinds V S) (stepWith V fun a ↦ (next a).erase) (Payload.IsA α)
      (Payload.IsA β) :=
  ⟨α, β, ‹_›, ‹_›, next, hnext, rfl, rfl, rfl⟩

/-- The plan of a built program yields values of its type, and so do its continuations. -/
theorem Built.fits {p : Program V α S} (hp : p.Built) : p.Fits builtKinds := by
  have hmade := built_iff.mp hp
  clear hp
  induction hmade with
  | done a => exact ⟨a, rfl⟩
  | empty => trivial
  | submit request => exact fits_submit request
  | concat _ ih => exact fits_concat.mpr ih
  | map f _ ih => exact ih.map (builtKinds_stepWith _ fun a ↦ built_done (f a))
  | filter keep _ ih =>
    have hstep := builtKinds_stepWith (V := V) (S := S)
      (fun a ↦ if keep a then .done a else .empty)
      (fun a ↦ by split_ifs <;> simp [built_done, built_empty])
    simp only [apply_ite erase, erase] at hstep
    exact ih.filter hstep
  | flatMap _ _ hf ih ihheld => exact ih.flatMap (builtKinds_stepWith _ hf) ihheld

theorem builtKinds_sound : (builtKinds : Kinds V S).Sound := by
  rintro _ _ _ ⟨α, β, _, _, next, hnext, rfl, rfl, rfl⟩ _ ⟨a, rfl⟩
  rw [stepWith, Closures.resume_closure, Carried.recover_erase]
  exact (hnext a).fits

end Fits

end Program

/-! ### Evaluation at the values of a plan -/

section Congruence

variable {service : Service V ω} {kinds : Kinds V S} {call : Calling V S ω}

/-- The value of an answer was read from a response. -/
theorem Submission.settle_success {submission : Submission V} {outcome : Except Failure Response}
    {value : Payload V} (hanswer : (submission.settle outcome).answer = .success value) :
    ∃ response, submission.request.decode response = .ok (some value) := by
  rcases outcome with cause | response
  · cases hanswer
  · refine ⟨response, ?_⟩
    simp only [settle, reply, Request.answer] at hanswer
    split_ifs at hanswer
    rcases hdecode : submission.request.decode response with error | _ | other
    · simp [hdecode] at hanswer
    · simp [hdecode] at hanswer
    · simp_all

theorem answerer_success {submission : Submission V} {w : ω} {value : Payload V}
    (hanswer : (service.answerer submission w).1 = .success value) :
    ∃ response, submission.request.decode response = .ok (some value) :=
  Submission.settle_success hanswer

/-- A call does the same if the same is done with the values that come out. -/
def Calling.Respects (kinds : Kinds V S) (call : Calling V S ω) : Prop :=
  ∀ step into out, kinds step into out → ∀ yield yield',
    (∀ value, out value → yield value = yield' value) →
      ∀ value, into value → call step yield value = call step yield' value

theorem through_congr (hcall : call.Respects kinds) {into out : Payload V → Prop} {steps : List S}
    (hsteps : Passes kinds into steps out) {yield yield' : Payload V → Effect V ω}
    (hyield : ∀ value, out value → yield value = yield' value) :
    ∀ value, into value → through call steps yield value = through call steps yield' value := by
  induction steps generalizing out yield yield' with
  | nil =>
    obtain rfl : into = out := hsteps
    exact hyield
  | cons step steps ih =>
    obtain ⟨between, hsteps, hstep⟩ := hsteps
    exact ih hsteps (hcall step between out hstep yield yield' hyield)

mutual

theorem walk_congr (hcall : call.Respects kinds) : ∀ (plan : Plan V S) {out : Payload V → Prop},
    plan.Fits kinds out → ∀ {yield yield' : Payload V → Effect V ω},
      (∀ value, out value → yield value = yield' value) →
        walk service.answerer call plan yield = walk service.answerer call plan yield'
  | .done value, _, hfits, _, _, hyield => hyield value hfits
  | .empty, _, _, _, _, _ => rfl
  | .submit request, out, hfits, yield, yield', hyield => by
    funext standing
    simp only [walk, ask]
    rcases hanswer : (service.answerer ⟨⟨standing.tickets⟩, request⟩ standing.service).1
      with value | _ | cause
    · obtain ⟨response, hresponse⟩ := answerer_success hanswer
      simp only [conclude, hyield value (hfits response value hresponse)]
    · rfl
    · rfl
  | .sequence first steps, _, ⟨_, hfirst, hsteps⟩, _, _, hyield =>
    walk_congr hcall first hfirst (through_congr hcall hsteps hyield)
  | .concat parts, _, hfits, _, _, hyield => walkAll_congr hcall parts hfits hyield
  | .mistyped, _, hfits, _, _, _ => hfits.elim

theorem walkAll_congr (hcall : call.Respects kinds) : ∀ (parts : List (Plan V S))
    {out : Payload V → Prop}, Plan.FitsAll kinds parts out →
      ∀ {yield yield' : Payload V → Effect V ω}, (∀ value, out value → yield value = yield' value) →
        walkAll service.answerer call parts yield = walkAll service.answerer call parts yield'
  | [], _, _, _, _, _ => rfl
  | part :: parts, _, ⟨hpart, hparts⟩, _, _, hyield => by
    funext standing
    simp only [walkAll]
    rw [walk_congr hcall part hpart hyield, walkAll_congr hcall parts hparts hyield]

end

theorem calling_respects [Resumes V S] (hkinds : kinds.Sound) (depth : ℕ) :
    (calling service.answerer depth : Calling V S ω).Respects kinds := by
  induction depth with
  | zero => exact fun _ _ _ _ _ _ _ _ _ ↦ rfl
  | succ depth ih =>
    intro step into out hstep yield yield' hyield value hvalue
    exact walk_congr ih (resume step value) (hkinds step into out hstep value hvalue) hyield

/-- Only what is done with the values of a plan matters to its evaluation. -/
theorem evaluate_congr [Resumes V S] (hkinds : kinds.Sound) (depth : ℕ) {plan : Plan V S}
    {out : Payload V → Prop} (hplan : plan.Fits kinds out) {yield yield' : Payload V → Effect V ω}
    (hyield : ∀ value, out value → yield value = yield' value) :
    evaluate service.answerer depth plan yield = evaluate service.answerer depth plan yield' :=
  walk_congr (calling_respects hkinds depth) plan hplan hyield

end Congruence

end Errand
