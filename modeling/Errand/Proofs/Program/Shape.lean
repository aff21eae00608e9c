import Errand.Proofs.Program.Concatenation
import Errand.Proofs.Program.Typing
import Errand.Values

/-!
The shape of programs. Sequences come from nowhere but `flatMap` on a request, and every operator on
a sequence adds a step beside the others. So every sequence in a program made with the operators has
a single request in front and at least one step, and so has every sequence that the program comes to
when its continuations are called with values, in whatever order (`sequences_are_chains`). However
many operators are applied to a sequence, it stays one sequence (`Continued.eq_sequence`).

`Program.Composed` says how programs are made; a copy of a program is the program itself. Erased
programs count as programs of payloads (`Program.erased`), to which operators may be applied again.
-/

set_option autoImplicit false

namespace Errand

variable {V : ValueTypes} {S α β : Type}

/-- A single request, and at least one step that its values pass through. -/
structure Plan.IsChain (first : Plan V S) (steps : List S) : Prop where
  request : ∃ request, first = .submit request
  steps : steps ≠ []

/-- What a plan comes to: the plan itself, and what the continuations in the sequences of a plan it
comes to make of values. -/
inductive Plan.ComesTo [Resumes V S] (p : Plan V S) : Plan V S → Prop
  | self : ComesTo p p
  | resumed {q first : Plan V S} {steps : List S} {step : S} (hq : ComesTo p q)
      (hleaf : .sequence first steps ∈ q.leaves) (hstep : step ∈ steps) (value : Payload V) :
      ComesTo p (resume step value)

namespace Program

/-! ### Erased programs -/

mutual

/-- A program with the types of its values forgotten, as a program of payloads. -/
def erased [Carried V α] : Program V α S → Program V (Payload V) S
  | .done a => .done (Carried.erase a)
  | .empty => .empty
  | .submit request => .submit (request.mapResponse Carried.erase)
  | .sequence first steps => .sequence first steps
  | .concat parts => .concat (erasedParts parts)

def erasedParts [Carried V α] : List (Program V α S) → List (Program V (Payload V) S)
  | [] => []
  | p :: parts => p.erased :: erasedParts parts

end

mutual

/-- The plan of a program of payloads, which are left as they are. -/
def plain : Program V (Payload V) S → Plan V S
  | .done value => .done value
  | .empty => .empty
  | .submit request => .submit request
  | .sequence first steps => .sequence first steps
  | .concat parts => .concat (plainParts parts)

def plainParts : List (Program V (Payload V) S) → List (Plan V S)
  | [] => []
  | p :: parts => p.plain :: plainParts parts

end

@[simp] theorem erasedParts_eq [Carried V α] (parts : List (Program V α S)) :
    erasedParts parts = parts.map erased := by
  induction parts with
  | nil => rfl
  | cons p parts ih => simp [erasedParts, ih]

@[simp] theorem plainParts_eq (parts : List (Program V (Payload V) S)) :
    plainParts parts = parts.map plain := by
  induction parts with
  | nil => rfl
  | cons p parts ih => simp [plainParts, ih]

/-- An erased program is the plan of the program. -/
theorem plain_erased [Carried V α] (p : Program V α S) : p.erased.plain = p.erase := by
  induction p with
  | concat parts ih => simpa [erased, plain, erase] using ih
  | _ => rfl

/-! ### How programs are made -/

section Making

variable [Closures V S]

/-- Made in any of the ways there are, the continuations making programs that are `Later`. A
continuation has been called with the values that were there. -/
inductive Composing (Later : Family V S) : Family V S
  | done {α : Type} [Carried V α] (a : α) : Composing Later α (.done a)
  | empty {α : Type} [Carried V α] : Composing Later α .empty
  | submit {α : Type} [Carried V α] (request : Request α) : Composing Later α (.submit request)
  | concat {α : Type} [Carried V α] {parts : List (Program V α S)}
      (hparts : ∀ p ∈ parts, Composing Later α p) : Composing Later α (.concat parts)
  | ofOption {α : Type} [Carried V α] (a? : Option α) : Composing Later α (.ofOption a?)
  | ofParts {α : Type} [Carried V α] {parts : List (Program V α S)}
      (hparts : ∀ p ∈ parts, Composing Later α p) : Composing Later α (.ofParts parts)
  | ofList {α : Type} [Carried V α] (values : List α) : Composing Later α (.ofList values)
  | map {α β : Type} [Carried V α] [Carried V β] (f : α → β) {p : Program V α S}
      (hp : Composing Later α p) : Composing Later β (p.map f)
  | filter {α : Type} [Carried V α] (keep : α → Bool) {p : Program V α S}
      (hp : Composing Later α p) : Composing Later α (p.filter keep)
  | flatMap {α β : Type} [Carried V α] [Carried V β] {f : α → Program V β S} {p : Program V α S}
      (hp : Composing Later α p) (hheld : ∀ a, p.Holds a → Composing Later β (f a))
      (hf : ∀ a, Later β (f a)) : Composing Later β (p.flatMap f)
  | erased {α : Type} [Carried V α] {p : Program V α S} (hp : Composing Later α p) :
      Composing Later (Payload V) p.erased

theorem Composing.mono {Later Later' : Family V S}
    (hlater : ∀ (β : Type) [Carried V β] (q : Program V β S), Later β q → Later' β q)
    [Carried V α] {p : Program V α S} (hp : Composing Later α p) : Composing Later' α p := by
  induction hp with
  | done a => exact .done a
  | empty => exact .empty
  | submit request => exact .submit request
  | concat _ ih => exact .concat ih
  | ofOption a? => exact .ofOption a?
  | ofParts _ ih => exact .ofParts ih
  | ofList values => exact .ofList values
  | map f _ ih => exact .map f ih
  | filter keep _ ih => exact .filter keep ih
  | flatMap _ _ hf ih ihheld => exact .flatMap ih ihheld fun a ↦ hlater _ _ (hf a)
  | erased _ ih => exact .erased ih

/-- Made in any of the ways there are, and so are the programs that the continuations make. -/
def Composed [Carried V α] (p : Program V α S) : Prop :=
  ∃ Later : Family V S,
    (∀ (β : Type) [Carried V β] (q : Program V β S), Later β q → Composing Later β q) ∧
      Composing Later α p

theorem composed_iff [Carried V α] {p : Program V α S} :
    p.Composed ↔ Composing (fun _ _ q ↦ q.Composed) α p := by
  constructor
  · rintro ⟨Later, hlater, hp⟩
    exact hp.mono fun _ _ q hq ↦ ⟨Later, hlater, hlater _ q hq⟩
  · intro hp
    refine ⟨fun _ _ q ↦ q.Composed, ?_, hp⟩
    rintro β _ q ⟨Later, hlater, hq⟩
    exact hq.mono fun _ _ q hq ↦ ⟨Later, hlater, hlater _ q hq⟩

end Making

/-! ### Chains -/

/-- Every sequence in a program is a chain, of steps that are `Later`. -/
def Shaped (Later : S → Prop) (p : Program V α S) : Prop :=
  ∀ first steps, .sequence first steps ∈ p.leaves →
    Plan.IsChain first steps ∧ ∀ step ∈ steps, Later step

section Shaped

variable {Later : S → Prop}

theorem shaped_concat {parts : List (Program V α S)} :
    (concat parts).Shaped Later ↔ ∀ p ∈ parts, p.Shaped Later := by
  simp only [Shaped, leaves_concat, List.mem_flatMap]
  exact ⟨fun h p hp first steps hleaf ↦ h first steps ⟨p, hp, hleaf⟩,
    fun h first steps ⟨p, hp, hleaf⟩ ↦ h p hp first steps hleaf⟩

theorem shaped_ofParts {parts : List (Program V α S)} :
    (ofParts parts).Shaped Later ↔ ∀ p ∈ parts, p.Shaped Later := by
  rw [← shaped_concat, Shaped, Shaped, leaves_ofParts, leaves_concat]

theorem shaped_done (a : α) : (done a : Program V α S).Shaped Later := by simp [Shaped, leaves]

theorem shaped_empty : (empty : Program V α S).Shaped Later := by simp [Shaped, leaves]

theorem shaped_submit (request : Request α) : (submit request : Program V α S).Shaped Later := by
  simp [Shaped, leaves]

theorem shaped_sequence {first : Plan V S} {steps : List S} :
    (sequence first steps : Program V α S).Shaped Later ↔
      Plan.IsChain first steps ∧ ∀ step ∈ steps, Later step := by
  simp [Shaped, leaves]

/-- One step more makes a chain of a chain. -/
theorem shaped_sequence_cons {first : Plan V S} {steps : List S} {step : S}
    (hshaped : (sequence first steps : Program V α S).Shaped Later) (hstep : Later step) :
    (sequence first (step :: steps) : Program V β S).Shaped Later := by
  obtain ⟨hchain, hsteps⟩ := shaped_sequence.mp hshaped
  exact shaped_sequence.mpr
    ⟨⟨hchain.request, List.cons_ne_nil _ _⟩, List.forall_mem_cons.mpr ⟨hstep, hsteps⟩⟩

theorem shaped_ofOption (a? : Option α) : (ofOption a? : Program V α S).Shaped Later := by
  cases a? with
  | none => exact shaped_empty
  | some a => exact shaped_done a

theorem shaped_ofList (values : List α) : (ofList values : Program V α S).Shaped Later :=
  shaped_ofParts.mpr (List.forall_mem_map.mpr fun a _ ↦ shaped_done a)

theorem Shaped.erased [Carried V α] {p : Program V α S} (hp : p.Shaped Later) :
    p.erased.Shaped Later := by
  induction p with
  | done a => exact shaped_done _
  | empty => exact shaped_empty
  | submit request => exact shaped_submit _
  | sequence first steps => exact shaped_sequence.mpr (shaped_sequence.mp hp)
  | concat parts ih =>
    rw [Program.erased, erasedParts_eq, shaped_concat, List.forall_mem_map]
    exact fun p hmem ↦ ih p hmem (shaped_concat.mp hp p hmem)

variable [Closures V S] [Carried V α] [Carried V β]

theorem Shaped.map {f : α → β} (hstep : Later (stepWith V fun a ↦ .done (Carried.erase (f a))))
    {p : Program V α S} (hp : p.Shaped Later) : (p.map f).Shaped Later := by
  induction p with
  | done a => exact shaped_done _
  | empty => exact shaped_empty
  | submit request => exact shaped_submit _
  | sequence first steps => exact shaped_sequence_cons hp hstep
  | concat parts ih =>
    rw [Program.map, mapParts_eq, shaped_concat, List.forall_mem_map]
    exact fun p hmem ↦ ih p hmem (shaped_concat.mp hp p hmem)

theorem Shaped.filter {keep : α → Bool}
    (hstep : Later (stepWith V fun a ↦ if keep a then .done (Carried.erase a) else .empty))
    {p : Program V α S} (hp : p.Shaped Later) : (p.filter keep).Shaped Later := by
  induction p with
  | done a =>
    rw [Program.filter]
    split_ifs
    · exact hp
    · exact shaped_empty
  | empty => exact shaped_empty
  | submit request => exact shaped_submit _
  | sequence first steps => exact shaped_sequence_cons hp hstep
  | concat parts ih =>
    rw [Program.filter, filterParts_eq, shaped_concat, List.forall_mem_map]
    exact fun p hmem ↦ ih p hmem (shaped_concat.mp hp p hmem)

theorem Shaped.flatMap {f : α → Program V β S} (hstep : Later (stepWith V fun a ↦ (f a).erase))
    {p : Program V α S} (hf : ∀ a, p.Holds a → (f a).Shaped Later) (hp : p.Shaped Later) :
    (p.flatMap f).Shaped Later := by
  induction p with
  | done a => exact hf a (.done a)
  | empty => exact shaped_empty
  | submit request =>
    exact shaped_sequence.mpr
      ⟨⟨⟨_, rfl⟩, List.cons_ne_nil _ _⟩, List.forall_mem_singleton.mpr hstep⟩
  | sequence first steps => exact shaped_sequence_cons hp hstep
  | concat parts ih =>
    rw [Program.flatMap, flatMapParts_eq, shaped_concat, List.forall_mem_map]
    intro p hmem
    exact ih p hmem (fun a ha ↦ hf a (.concat hmem ha)) (shaped_concat.mp hp p hmem)

end Shaped

/-! ### What a program comes to -/

section ComesTo

variable [Closures V S] [Carried V α]

omit [Closures V S] in
/-- The sequences in the plan of a program are those in the program. -/
theorem sequence_mem_leaves_erase {p : Program V α S} {first : Plan V S} {steps : List S} :
    .sequence first steps ∈ p.erase.leaves ↔ .sequence first steps ∈ p.leaves := by
  rw [leaves_erase, List.mem_map]
  constructor
  · rintro ⟨leaf, hleaf, herase⟩
    cases leaf with
    | sequence first' steps' =>
      obtain ⟨rfl, rfl⟩ : first' = first ∧ steps' = steps := by simpa [erase] using herase
      exact hleaf
    | _ => simp [erase] at herase
  · exact fun hleaf ↦ ⟨_, hleaf, rfl⟩

/-- A step that goes on with composed programs. -/
def ComposedStep (V : ValueTypes) [Closures V S] (step : S) : Prop :=
  ∃ (α β : Type) (_ : Carried V α) (_ : Carried V β) (next : α → Program V β S),
    (∀ a, (next a).Composed) ∧ step = stepWith V fun a ↦ (next a).erase

theorem composedStep_stepWith [Carried V β] {next : α → Program V β S}
    (hnext : ∀ a, (next a).Composed) : ComposedStep V (stepWith V fun a ↦ (next a).erase) :=
  ⟨α, β, ‹_›, ‹_›, next, hnext, rfl⟩

/-- The sequences in a composed program are chains of steps that go on with such programs. -/
theorem Composed.shaped {p : Program V α S} (hp : p.Composed) : p.Shaped (ComposedStep V) := by
  have hdone : ∀ {β : Type} [Carried V β] (b : β), (done b : Program V β S).Composed :=
    fun b ↦ composed_iff.mpr (.done b)
  have hempty : ∀ {β : Type} [Carried V β], (empty : Program V β S).Composed :=
    composed_iff.mpr .empty
  have hcomposing := composed_iff.mp hp
  clear hp
  induction hcomposing with
  | done a => exact shaped_done a
  | empty => exact shaped_empty
  | submit request => exact shaped_submit request
  | concat _ ih => exact shaped_concat.mpr ih
  | ofOption a? => exact shaped_ofOption a?
  | ofParts _ ih => exact shaped_ofParts.mpr ih
  | ofList values => exact shaped_ofList values
  | map f _ ih => exact ih.map (composedStep_stepWith fun a ↦ hdone (f a))
  | filter keep _ ih =>
    have hdecided : ∀ a, (if keep a then done a else empty : Program V _ S).Composed := by
      intro a
      split_ifs <;> simp [hdone, hempty]
    have hstep := composedStep_stepWith hdecided
    simp only [apply_ite erase, erase] at hstep
    exact ih.filter hstep
  | flatMap _ _ hf ih ihheld => exact ih.flatMap (composedStep_stepWith hf) ihheld
  | erased _ ih => exact ih.erased

/-- Whatever a composed program comes to, the sequences in it are chains. -/
theorem Composed.shaped_of_comesTo {p : Program V α S} (hp : p.Composed) {q : Plan V S}
    (hq : p.erase.ComesTo q) {first : Plan V S} {steps : List S}
    (hleaf : .sequence first steps ∈ q.leaves) :
    Plan.IsChain first steps ∧ ∀ step ∈ steps, ComposedStep V step := by
  induction hq generalizing first steps with
  | self => exact hp.shaped first steps (sequence_mem_leaves_erase.mp hleaf)
  | resumed _ hbefore hstep value ih =>
    obtain ⟨α, β, _, _, next, hnext, rfl⟩ := (ih hbefore).2 _ hstep
    rw [stepWith, Closures.resume_closure] at hleaf
    rcases hvalue : Carried.recover (α := α) value with _ | a
    · simp [hvalue, Plan.leaves] at hleaf
    · simp only [hvalue] at hleaf
      exact (hnext a).shaped first steps (sequence_mem_leaves_erase.mp hleaf)

end ComesTo

/-! ### Operators on sequences -/

section Continued

variable [Closures V S] [Carried V α]

/-- Operators applied to a program, one after the other, and how many they are. -/
inductive Continued (p : Program V α S) : ℕ → ∀ (β : Type) [Carried V β], Program V β S → Prop
  | self : Continued p 0 α p
  | map {n : ℕ} {β γ : Type} [Carried V β] [Carried V γ] (f : β → γ) {q : Program V β S}
      (hq : Continued p n β q) : Continued p (n + 1) γ (q.map f)
  | filter {n : ℕ} {β : Type} [Carried V β] (keep : β → Bool) {q : Program V β S}
      (hq : Continued p n β q) : Continued p (n + 1) β (q.filter keep)
  | flatMap {n : ℕ} {β γ : Type} [Carried V β] [Carried V γ] (f : β → Program V γ S)
      {q : Program V β S} (hq : Continued p n β q) : Continued p (n + 1) γ (q.flatMap f)

/-- Every operator applied to a sequence adds one step to those that are there. -/
theorem Continued.eq_sequence {first : Plan V S} {steps : List S} {n : ℕ} {β : Type} [Carried V β]
    {q : Program V β S} (hq : Continued (sequence first steps : Program V α S) n β q) :
    ∃ added, added.length = n ∧ q = sequence first (added ++ steps) := by
  induction hq with
  | self => exact ⟨[], rfl, rfl⟩
  | map f _ ih | filter keep _ ih | flatMap f _ ih =>
    obtain ⟨added, rfl, rfl⟩ := ih
    exact ⟨_ :: added, rfl, rfl⟩

/-- Every sequence in a composed program, and in whatever its continuations make of values, has a
single request in front and at least one step. An erased program counts as composed, and is the plan
of the program. An operator applied to a sequence keeps what is in front and the steps that are
there, and adds one; so a request continued and then continued again, however often, is one sequence
with as many steps, and the same sequence once it is erased. -/
theorem sequences_are_chains :
    (∀ p : Program V α S, p.Composed →
      (∀ first steps, .sequence first steps ∈ p.leaves → Plan.IsChain first steps) ∧
        ∀ q, p.erase.ComesTo q → ∀ first steps, .sequence first steps ∈ q.leaves →
          Plan.IsChain first steps) ∧
      (∀ p : Program V α S, p.Composed → p.erased.Composed ∧ p.erased.plain = p.erase) ∧
      (∀ (first : Plan V S) (steps : List S) (n : ℕ) (β : Type) [Carried V β] (q : Program V β S),
        Continued (sequence first steps : Program V α S) n β q →
          ∃ added, added.length = n ∧ q = sequence first (added ++ steps)) ∧
      ∀ (request : Request α) (β γ : Type) [Carried V β] [Carried V γ] (f : α → Program V β S)
        (n : ℕ) (q : Program V γ S), Continued ((submit request).flatMap f) n γ q →
          ∃ steps, steps.length = n + 1 ∧
            q = sequence (.submit (request.mapResponse Carried.erase)) steps ∧
              q.erase = .sequence (.submit (request.mapResponse Carried.erase)) steps := by
  refine ⟨fun p hp ↦ ⟨fun first steps hleaf ↦ (hp.shaped first steps hleaf).1,
    fun q hq first steps hleaf ↦ (hp.shaped_of_comesTo hq hleaf).1⟩,
    fun p hp ↦ ⟨composed_iff.mpr (.erased (composed_iff.mp hp)), plain_erased p⟩,
    fun first steps n β _ q hq ↦ hq.eq_sequence, ?_⟩
  intro request β γ _ _ f n q hq
  obtain ⟨added, rfl, rfl⟩ := hq.eq_sequence
  exact ⟨added ++ [_], by simp, rfl, rfl⟩

end Continued

/-- A continuation continues a request of its own, and the program it stands in is erased and goes
through two more operators. -/
theorem sequences_are_chains_of_nested :
    let request : Request UInt8 :=
      { route := ⟨.get, "/"⟩, decode := fun response ↦ .ok response.body.head?, label := "Get" }
    let inner : UInt8 → Program values UInt8 := fun n ↦
      (submit request).flatMap fun m ↦ .ofList [n, m]
    let p : Program values UInt8 :=
      .ofParts [.ofOption none, .concat [.filter (· < 9) ((submit request).flatMap inner), .done 1]]
    let q : Program values Unit := p.erased.map fun _ ↦ ()
    q.Composed ∧ (∀ first steps, .sequence first steps ∈ q.leaves → Plan.IsChain first steps) ∧
      q.erase.ComesTo (inner 3).erase ∧
        ∀ first steps, .sequence first steps ∈ (inner 3).erase.leaves →
          Plan.IsChain first steps := by
  intro request inner p q
  have hinner : ∀ n, (inner n).Composed := fun n ↦ composed_iff.mpr <|
    .flatMap (.submit request) (fun _ hheld ↦ nomatch hheld) fun m ↦ composed_iff.mpr (.ofList _)
  have hq : q.Composed := composed_iff.mpr <| .map _ <| .erased <| .ofParts <| by
    refine List.forall_mem_cons.mpr ⟨.ofOption none, List.forall_mem_singleton.mpr (.concat ?_)⟩
    refine List.forall_mem_cons.mpr ⟨.filter _ ?_, List.forall_mem_singleton.mpr (.done 1)⟩
    exact .flatMap (.submit request) (fun _ hheld ↦ nomatch hheld) hinner
  have hcomes : q.erase.ComesTo (inner 3).erase := by
    have hleaf : q.erase.leaves = [.sequence (.submit (request.mapResponse Carried.erase))
        [stepWith values fun _ : Payload values ↦ .done (Carried.erase ()),
          stepWith values fun n : UInt8 ↦ if n < 9 then .done (Carried.erase n) else .empty,
          stepWith values fun n ↦ (inner n).erase], .done (Carried.erase ())] := by
      simp [q, p, Plan.leaves, erase, map, filter, flatMap, Program.erased, ofParts, ofOption]
    have hresume : resume (stepWith values fun n ↦ (inner n).erase) (Carried.erase (3 : UInt8)) =
        (inner 3).erase := by simp [stepWith, Carried.recover_erase]
    exact hresume ▸ .resumed .self (hleaf ▸ List.mem_cons_self) (by simp) _
  obtain ⟨hleaves, hlater⟩ := (sequences_are_chains (α := Unit)).1 q hq
  exact ⟨hq, hleaves, hcomes, hlater _ hcomes⟩

end Program

end Errand
