import Errand.Program
import Errand.Proofs.Run.Matching
import Errand.Values

/-!
How programs are concatenated does not show. Programs that have the same leaves have matching plans,
and the operators keep matching programs matching (`Program.Matches.flatMap` and its siblings). So
concatenations may be regrouped anywhere in a program, in the programs that its continuations make
as well (`Program.Regrouped`), and no run tells the difference: concatenation is associative, what
is empty is its unit, collapsing trivial concatenations is unseen, and continuing a concatenation is
continuing its parts (`regrouping_unseen`).
-/

set_option autoImplicit false

namespace Errand

variable {V : ValueTypes} {S α β γ : Type}

namespace Program

/-! ### Leaves -/

mutual

/-- The parts of a program that are neither concatenations nor empty, in order. -/
def leaves : Program V α S → List (Program V α S)
  | .done a => [.done a]
  | .empty => []
  | .submit request => [.submit request]
  | .sequence first steps => [.sequence first steps]
  | .concat parts => leavesOf parts

def leavesOf : List (Program V α S) → List (Program V α S)
  | [] => []
  | part :: parts => part.leaves ++ leavesOf parts

end

@[simp] theorem leavesOf_eq (parts : List (Program V α S)) :
    leavesOf parts = parts.flatMap leaves := by
  induction parts with
  | nil => rfl
  | cons part parts ih => simp [leavesOf, ih]

theorem leaves_concat (parts : List (Program V α S)) :
    (concat parts).leaves = parts.flatMap leaves := by
  rw [leaves, leavesOf_eq]

/-- Parts put together without a node of their own have the leaves they would have with one. -/
theorem leaves_ofParts (parts : List (Program V α S)) :
    (ofParts parts).leaves = parts.flatMap leaves := by
  unfold ofParts
  split <;> simp [leaves]

section Operators

variable [Closures V S] [Carried V α] [Carried V β]

omit [Closures V S] in
theorem leaves_erase (p : Program V α S) : p.erase.leaves = p.leaves.map erase := by
  induction p with
  | concat parts ih =>
    simp only [erase, eraseParts_eq, Plan.leaves, Plan.leavesOf_eq, leaves, leavesOf_eq,
      List.flatMap_map, List.map_flatMap]
    exact List.flatMap_congr ih
  | _ => rfl

theorem leaves_map (f : α → β) (p : Program V α S) :
    (p.map f).leaves = p.leaves.flatMap fun leaf ↦ (leaf.map f).leaves := by
  induction p with
  | concat parts ih =>
    simp only [map, mapParts_eq, leaves_concat, List.flatMap_map, List.flatMap_assoc]
    exact List.flatMap_congr ih
  | _ => simp [leaves, map]

theorem leaves_filter (keep : α → Bool) (p : Program V α S) :
    (p.filter keep).leaves = p.leaves.flatMap fun leaf ↦ (leaf.filter keep).leaves := by
  induction p with
  | concat parts ih =>
    simp only [filter, filterParts_eq, leaves_concat, List.flatMap_map, List.flatMap_assoc]
    exact List.flatMap_congr ih
  | _ => simp [leaves, filter]

theorem leaves_flatMap (f : α → Program V β S) (p : Program V α S) :
    (p.flatMap f).leaves = p.leaves.flatMap fun leaf ↦ (leaf.flatMap f).leaves := by
  induction p with
  | concat parts ih =>
    simp only [flatMap, flatMapParts_eq, leaves_concat, List.flatMap_map, List.flatMap_assoc]
    exact List.flatMap_congr ih
  | _ => simp [leaves, flatMap]

end Operators

/-! ### Programs that match -/

section Matching

variable [Closures V S]

/-- Leaves that are the same but for continuations that go on alike. -/
inductive LeafMatches : Program V α S → Program V α S → Prop
  | done (a : α) : LeafMatches (.done a) (.done a)
  | submit (request : Request α) : LeafMatches (.submit request) (.submit request)
  | sequence (first : Plan V S) {steps steps' : List S}
    (hsteps : List.Forall₂ (GoAlike V) steps steps') :
    LeafMatches (.sequence first steps) (.sequence first steps')

/-- Programs whose leaves are the same but for continuations that go on alike. -/
def Matches (p q : Program V α S) : Prop := List.Forall₂ LeafMatches p.leaves q.leaves

theorem leafMatches_refl {p : Program V α S} : ∀ leaf ∈ p.leaves, LeafMatches leaf leaf := by
  induction p with
  | done a => simp [leaves, LeafMatches.done]
  | empty => simp [leaves]
  | submit request => simp [leaves, LeafMatches.submit]
  | sequence first steps =>
    have hsteps : List.Forall₂ (GoAlike V) steps steps :=
      List.forall₂_same.mpr fun step _ ↦ .refl step
    simp [leaves, LeafMatches.sequence first hsteps]
  | concat parts ih =>
    intro leaf hleaf
    rw [leaves_concat] at hleaf
    obtain ⟨part, hpart, hleaf⟩ := List.mem_flatMap.mp hleaf
    exact ih part hpart leaf hleaf

theorem matches_of_leaves {p q : Program V α S} (hleaves : p.leaves = q.leaves) : p.Matches q := by
  rw [Matches, ← hleaves]
  exact List.forall₂_same.mpr leafMatches_refl

/-- A step is known by the programs it goes on with. -/
theorem goAlike_stepWith [Carried V α] {next next' : α → Plan V S}
    (hnext : ∀ a, (next a).Matches (next' a)) : GoAlike V (stepWith V next) (stepWith V next') := by
  refine .of_resume fun value ↦ ?_
  simp only [stepWith, Closures.resume_closure]
  split
  · exact hnext _
  · exact Plan.matchesBy_refl GoAlike.refl _

namespace Matches

variable {p q r : Program V α S}

theorem erase [Carried V α] (hpq : p.Matches q) : p.erase.Matches q.erase := by
  rw [Plan.Matches, Plan.MatchesBy, leaves_erase, leaves_erase, List.forall₂_map_left_iff,
    List.forall₂_map_right_iff]
  refine List.Forall₂.imp (fun leaf leaf' hleaf ↦ ?_) hpq
  cases hleaf with
  | done a => exact .done _
  | submit request => exact .submit _
  | sequence first hsteps => exact .sequence first hsteps

theorem trans (hpq : p.Matches q) (hqr : q.Matches r) : p.Matches r := by
  refine forall₂_comp (fun a b c hab hbc ↦ ?_) hpq hqr
  cases hab with
  | done a => exact hbc
  | submit request => exact hbc
  | sequence first hsteps =>
    cases hbc with
    | sequence _ hsteps' =>
      exact .sequence first (forall₂_comp (fun _ _ _ hab hbc ↦ hab.trans hbc) hsteps hsteps')

theorem cons {parts parts' : List (Program V α S)} (hpq : p.Matches q)
    (hparts : (concat parts).Matches (concat parts')) :
    (concat (p :: parts)).Matches (concat (q :: parts')) := by
  simp only [Matches, leaves_concat, List.flatMap_cons] at hparts ⊢
  exact List.rel_append hpq hparts

variable [Carried V α] [Carried V β]

theorem map (f : α → β) (hpq : p.Matches q) : (p.map f).Matches (q.map f) := by
  rw [Matches, leaves_map, leaves_map]
  refine List.rel_flatMap hpq fun leaf leaf' hleaf ↦ ?_
  cases hleaf with
  | sequence first hsteps => exact .cons (.sequence first (.cons (.refl _) hsteps)) .nil
  | done a => exact List.forall₂_same.mpr leafMatches_refl
  | submit request => exact List.forall₂_same.mpr leafMatches_refl

theorem filter (keep : α → Bool) (hpq : p.Matches q) :
    (p.filter keep).Matches (q.filter keep) := by
  rw [Matches, leaves_filter, leaves_filter]
  refine List.rel_flatMap hpq fun leaf leaf' hleaf ↦ ?_
  cases hleaf with
  | sequence first hsteps => exact .cons (.sequence first (.cons (.refl _) hsteps)) .nil
  | done a => exact List.forall₂_same.mpr leafMatches_refl
  | submit request => exact List.forall₂_same.mpr leafMatches_refl

theorem flatMap {f g : α → Program V β S} (hfg : ∀ a, (f a).Matches (g a)) (hpq : p.Matches q) :
    (p.flatMap f).Matches (q.flatMap g) := by
  have hstep : GoAlike V (stepWith V fun a ↦ (f a).erase) (stepWith V fun a ↦ (g a).erase) :=
    goAlike_stepWith fun a ↦ (hfg a).erase
  rw [Matches, leaves_flatMap, leaves_flatMap]
  refine List.rel_flatMap hpq fun leaf leaf' hleaf ↦ ?_
  cases hleaf with
  | sequence first hsteps => exact .cons (.sequence first (.cons hstep hsteps)) .nil
  | done a => exact hfg a
  | submit request => exact .cons (.sequence _ (.cons hstep .nil)) .nil

end Matches

/-! ### Regrouping -/

/-- Programs that differ only in how concatenations are grouped: at the top, in a part, under an
operator, or in what a continuation makes of a value. -/
inductive Regrouped : ∀ {α : Type} [Carried V α], Program V α S → Program V α S → Prop
  | leaves {α : Type} [Carried V α] {p q : Program V α S} (hleaves : p.leaves = q.leaves) :
    Regrouped p q
  | cons {α : Type} [Carried V α] {p q : Program V α S} {parts parts' : List (Program V α S)}
    (hpq : Regrouped p q) (hparts : Regrouped (.concat parts) (.concat parts')) :
    Regrouped (.concat (p :: parts)) (.concat (q :: parts'))
  | map {α β : Type} [Carried V α] [Carried V β] (f : α → β) {p q : Program V α S}
    (hpq : Regrouped p q) : Regrouped (p.map f) (q.map f)
  | filter {α : Type} [Carried V α] (keep : α → Bool) {p q : Program V α S}
    (hpq : Regrouped p q) : Regrouped (p.filter keep) (q.filter keep)
  | flatMap {α β : Type} [Carried V α] [Carried V β] {f g : α → Program V β S}
    {p q : Program V α S} (hfg : ∀ a, Regrouped (f a) (g a)) (hpq : Regrouped p q) :
    Regrouped (p.flatMap f) (q.flatMap g)
  | trans {α : Type} [Carried V α] {p q r : Program V α S} (hpq : Regrouped p q)
    (hqr : Regrouped q r) : Regrouped p r

theorem Regrouped.matches [Carried V α] {p q : Program V α S} (hpq : p.Regrouped q) :
    p.Matches q := by
  induction hpq with
  | leaves hleaves => exact matches_of_leaves hleaves
  | cons _ _ ihp ihparts => exact ihp.cons ihparts
  | map f _ ih => exact ih.map f
  | filter keep _ ih => exact ih.filter keep
  | flatMap _ _ ihf ih => exact ih.flatMap ihf
  | trans _ _ ihp ihq => exact ihp.trans ihq

theorem Regrouped.indistinct [Carried V α] {p q : Program V α S} (hpq : p.Regrouped q) :
    p.erase.Indistinct q.erase :=
  hpq.matches.erase.indistinct

/-- How a program is put together from its parts is unseen, over every flow: all that shows of the
runs of the two sides, the calls on the flow and the items, is the same. Concatenation is
associative, for any number of groups; what is empty is its unit, and empty when it is continued;
an empty or a single part, or a list of values, may stand for itself; continuing a concatenation is
continuing each of its parts; and so is any regrouping of concatenations, wherever they stand in a
program. -/
theorem regrouping_unseen [Carried V α] [Carried V β] :
    (∀ p q r : Program V α S, (ofParts [ofParts [p, q], r]).erase.Indistinct
        (ofParts [p, ofParts [q, r]]).erase) ∧
      (∀ groups : List (List (Program V α S)), (ofParts (groups.map ofParts)).erase.Indistinct
        (ofParts groups.flatten).erase) ∧
      (∀ p : Program V α S, (ofParts [.empty, p]).erase.Indistinct p.erase ∧
        (ofParts [p, .empty]).erase.Indistinct p.erase) ∧
      (∀ f : α → Program V β S, ((Program.empty : Program V α S).flatMap f).erase.Indistinct
        (Program.empty : Program V β S).erase) ∧
      (∀ parts : List (Program V α S), (ofParts parts).erase.Indistinct (concat parts).erase) ∧
      (∀ values : List α, (ofList values : Program V α S).erase.Indistinct
        (concat (values.map done)).erase) ∧
      (∀ (parts : List (Program V α S)) (f : α → Program V β S),
        ((ofParts parts).flatMap f).erase.Indistinct (ofParts (parts.map (flatMap f))).erase ∧
          ((concat parts).flatMap f).erase.Indistinct (ofParts (parts.map (flatMap f))).erase) ∧
      ∀ p q : Program V α S, p.Regrouped q → p.erase.Indistinct q.erase := by
  have hleaves : ∀ {α : Type} [Carried V α] {p q : Program V α S}, p.leaves = q.leaves →
      p.erase.Indistinct q.erase := fun hleaves ↦ (Regrouped.leaves hleaves).indistinct
  refine ⟨?_, ?_, ?_, ?_, ?_, ?_, ?_, fun p q hpq ↦ hpq.indistinct⟩
  · intro p q r
    exact hleaves (by simp [leaves_ofParts])
  · intro groups
    refine hleaves ?_
    rw [leaves_ofParts, leaves_ofParts, List.flatMap_map, ← List.flatMap_id, List.flatMap_assoc]
    exact List.flatMap_congr fun group _ ↦ leaves_ofParts group
  · intro p
    exact ⟨hleaves (by simp [leaves_ofParts, leaves]), hleaves (by simp [leaves_ofParts, leaves])⟩
  · intro f
    exact hleaves rfl
  · intro parts
    exact hleaves (by rw [leaves_ofParts, leaves_concat])
  · intro values
    exact hleaves (by rw [ofList, leaves_ofParts, leaves_concat])
  · intro parts f
    refine ⟨hleaves ?_, hleaves ?_⟩
    · rw [leaves_flatMap, leaves_ofParts, leaves_ofParts, List.flatMap_assoc, List.flatMap_map]
      exact List.flatMap_congr fun part _ ↦ (leaves_flatMap f part).symm
    · simp [flatMap, leaves_concat, leaves_ofParts]

/-- A continuation may nest concatenations around what it yields, with nothing in between. -/
theorem regrouping_unseen_of_nested :
    let request : Request UInt8 :=
      { route := ⟨.get, "/"⟩, decode := fun response ↦ .ok response.body.head?, label := "Get" }
    let p : Program values UInt8 := (Program.submit request).flatMap fun n ↦
      .concat [.empty, .concat [.done n, .ofList [n + 1]]]
    let q : Program values UInt8 := (Program.submit request).flatMap fun n ↦ .ofList [n, n + 1]
    p.Regrouped q ∧ p.erase.Indistinct q.erase := by
  intro request p q
  have hpq : p.Regrouped q := .flatMap (fun n ↦ .leaves rfl) (.leaves rfl)
  exact ⟨hpq, (regrouping_unseen (β := UInt8)).2.2.2.2.2.2.2 p q hpq⟩

end Matching

end Program

end Errand
