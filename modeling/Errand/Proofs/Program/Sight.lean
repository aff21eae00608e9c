import Errand.Proofs.Program.Typing

/-!
What is seen of a run by the service and by whoever takes its items: the calls, the values and the
errors, in order. How a response is read is no part of a call (`Outgoing`), so requests that differ
in nothing else look alike.

The values may be changed on the way out, or left out. Where changed values are done in the end what
is done with the values of a plan, the evaluation of the plan is seen to be the same
(`evaluate_seen`): up to where it is cut off, and as long as its values are of the types that they
should be.
-/

set_option autoImplicit false

namespace Errand

variable {V : ValueTypes} {S ω α β : Type}

/-! ### Calls -/

/-- What reaches the service of a request. -/
structure Outgoing where
  route : Route
  body : Body
  headers : List Header
  requiresAuth : Bool

def Request.outgoing (request : Request α) : Outgoing :=
  ⟨request.route, request.body, request.headers, request.requiresAuth⟩

@[simp] theorem Request.outgoing_mapResponse (request : Request α) (f : α → β) :
    (request.mapResponse f).outgoing = request.outgoing := rfl

@[simp] theorem Request.outgoing_filterResponse (request : Request α) (keep : α → Bool) :
    (request.filterResponse keep).outgoing = request.outgoing := rfl

/-- A service that goes by what reaches it. -/
abbrev Remote (ω : Type) := Ticket → Outgoing → ω → Except Failure Response × ω

def Remote.service (remote : Remote ω) : Service V ω := fun submission w ↦
  remote submission.ticket submission.request.outgoing w

/-! ### Sights -/

inductive Sight (V : ValueTypes) where
  | called (ticket : Ticket) (outgoing : Outgoing)
  | yielded (value : Payload V)
  | rejected (ticket : Ticket) (cause : Failure)
  | mistyped

def Milestone.sight : Milestone V → Sight V
  | dispatched submission => .called submission.ticket submission.request.outgoing
  | yielded value => .yielded value
  | rejected ticket cause => .rejected ticket cause
  | mistyped => .mistyped

/-- Values are changed or left out, and everything else is left as it is. -/
def Sight.change (change : Payload V → Option (Payload V)) : Sight V → Option (Sight V)
  | yielded value => (change value).map yielded
  | other => some other

/-- What is seen where values are changed. -/
def seen (change : Payload V → Option (Payload V)) (shown : List (Milestone V)) : List (Sight V) :=
  (shown.map Milestone.sight).filterMap (Sight.change change)

section Seen

variable (change change' : Payload V → Option (Payload V)) (shown shown' : List (Milestone V))

@[simp] theorem seen_append :
    seen change (shown ++ shown') = seen change shown ++ seen change shown' := by
  simp [seen]

theorem prefix_seen_iff {sights : List (Sight V)} : sights <+: seen change shown ↔
    ∃ shown', shown' <+: shown ∧ sights = seen change shown' := by
  simp only [seen, List.filterMap_map]
  exact List.prefix_filterMap_iff

/-- What is changed twice. -/
theorem seen_bind : seen (fun value ↦ (change value).bind change') shown =
    (seen change shown).filterMap (Sight.change change') := by
  rw [seen, seen, List.filterMap_filterMap]
  congr 1
  funext sight
  cases sight with
  | yielded value => cases hvalue : change value <;> simp [Sight.change, hvalue]
  | _ => rfl

end Seen

/-! ### Accounts as they are seen -/

namespace Account

/-- `a` is seen as `b` is, each in its own way, or was cut off on the way to it. -/
def SeenBelow (see see' : Payload V → Option (Payload V)) (a b : Account V ω) : Prop :=
  a.finish = b.finish ∧ seen see a.trace = seen see' b.trace ∨
    a.finish = .cut ∧ seen see a.trace <+: seen see' b.trace

variable {see see' : Payload V → Option (Payload V)} {a b : Account V ω}

theorem seenBelow_of_cut (b : Account V ω) : SeenBelow see see' ⟨[], .cut⟩ b :=
  Or.inr ⟨rfl, List.nil_prefix⟩

theorem SeenBelow.prefix_seen (hab : a.SeenBelow see see' b) :
    seen see a.trace <+: seen see' b.trace := by
  rcases hab with ⟨-, hseen⟩ | ⟨-, hseen⟩
  · exact hseen ▸ List.prefix_rfl
  · exact hseen

theorem SeenBelow.after (hab : a.SeenBelow see see' b) {shown shown' : List (Milestone V)}
    (hshown : seen see shown = seen see' shown') :
    (a.after shown).SeenBelow see see' (b.after shown') := by
  rcases hab with ⟨hfinish, hseen⟩ | ⟨hcut, hseen⟩
  · exact Or.inl ⟨hfinish, by simp [Account.after, hshown, hseen]⟩
  · refine Or.inr ⟨hcut, ?_⟩
    simpa [Account.after, hshown] using hseen

theorem SeenBelow.andThen (hab : a.SeenBelow see see' b) {next next' : Effect V ω}
    (hnext : ∀ standing, (next standing).SeenBelow see see' (next' standing)) :
    (a.andThen next).SeenBelow see see' (b.andThen next') := by
  rcases hab with ⟨hfinish, hseen⟩ | ⟨hcut, hseen⟩
  · have hsame : a.SeenBelow see see' b := Or.inl ⟨hfinish, hseen⟩
    rcases hend : b.finish with standing | _ | _
    · simpa only [Account.andThen, hfinish, hend] using (hnext standing).after hseen
    · simpa only [Account.andThen, hfinish, hend] using hsame
    · simpa only [Account.andThen, hfinish, hend] using hsame
  · refine Or.inr ⟨by simp [Account.andThen, hcut], ?_⟩
    have hkept : seen see' b.trace <+: seen see' (b.andThen next').trace := by
      unfold Account.andThen
      split <;> simp [Account.after]
    simpa [Account.andThen, hcut] using hseen.trans hkept

theorem SeenBelow.trans {see'' : Payload V → Option (Payload V)} {c : Account V ω}
    (hab : a.SeenBelow see see' b) (hbc : b.SeenBelow see' see'' c) : a.SeenBelow see see'' c := by
  rcases hab with ⟨hfinish, hseen⟩ | ⟨hcut, hseen⟩
  · rw [SeenBelow, hfinish, hseen]
    exact hbc
  · exact Or.inr ⟨hcut, hseen.trans hbc.prefix_seen⟩

/-- What is seen alike is so where its values are changed. -/
theorem SeenBelow.bind (hab : a.SeenBelow see see' b) (change : Payload V → Option (Payload V)) :
    a.SeenBelow (fun value ↦ (see value).bind change) (fun value ↦ (see' value).bind change) b := by
  rw [SeenBelow, seen_bind, seen_bind]
  rcases hab with ⟨hfinish, hseen⟩ | ⟨hcut, hseen⟩
  · exact Or.inl ⟨hfinish, by rw [hseen]⟩
  · exact Or.inr ⟨hcut, hseen.filterMap _⟩

/-- What is carried on is seen to be. -/
theorem Below.seen {c : Account V ω} (hac : a.Below c) : a.SeenBelow see see c := by
  rcases hac with rfl | ⟨hcut, htrace⟩
  · exact Or.inl ⟨rfl, rfl⟩
  · exact Or.inr ⟨hcut, (htrace.map _).filterMap _⟩

end Account

/-! ### Evaluations as they are seen -/

section Evaluation

variable (see see' : Payload V → Option (Payload V))

/-- What is done with such values is seen as what is done in its place. -/
def Effect.SeenAt (such : Payload V → Prop) (yield yield' : Payload V → Effect V ω) : Prop :=
  ∀ value, such value → ∀ standing,
    (yield value standing).SeenBelow see see' (yield' value standing)

/-- Calls of continuations are seen as others are. -/
def Calling.SeenAt (kinds : Kinds V S) (call call' : Calling V S ω) : Prop :=
  ∀ step into out, kinds step into out → ∀ yield yield', Effect.SeenAt see see' out yield yield' →
    Effect.SeenAt see see' into (call step yield) (call' step yield')

variable {see see'} {service : Service V ω} {kinds : Kinds V S} {call call' : Calling V S ω}
  {yield yield' : Payload V → Effect V ω}

theorem through_seen (hcall : call.SeenAt see see' kinds call') {into out : Payload V → Prop}
    {steps : List S} (hsteps : Passes kinds into steps out)
    (hyield : Effect.SeenAt see see' out yield yield') :
    Effect.SeenAt see see' into (through call steps yield) (through call' steps yield') := by
  induction steps generalizing out yield yield' with
  | nil =>
    obtain rfl : into = out := hsteps
    exact hyield
  | cons step steps ih =>
    obtain ⟨between, hsteps, hstep⟩ := hsteps
    exact ih hsteps (hcall step between out hstep yield yield' hyield)

mutual

theorem walk_seen (hcall : call.SeenAt see see' kinds call') : ∀ (plan : Plan V S)
    {out : Payload V → Prop}, plan.Fits kinds out → ∀ {yield yield' : Payload V → Effect V ω},
      Effect.SeenAt see see' out yield yield' → ∀ standing,
        (walk service.answerer call plan yield standing).SeenBelow see see'
          (walk service.answerer call' plan yield' standing)
  | .done value, _, hfits, _, _, hyield, standing => hyield value hfits standing
  | .empty, _, _, _, _, _, _ => Or.inl ⟨rfl, rfl⟩
  | .submit request, out, hfits, yield, yield', hyield, standing => by
    simp only [walk, ask]
    rcases hanswer : (service.answerer ⟨⟨standing.tickets⟩, request⟩ standing.service).1
      with value | _ | cause
    · obtain ⟨response, hresponse⟩ := answerer_success hanswer
      exact (hyield value (hfits response value hresponse) _).after rfl
    · exact Or.inl ⟨rfl, rfl⟩
    · exact Or.inl ⟨rfl, rfl⟩
  | .sequence first steps, _, ⟨_, hfirst, hsteps⟩, _, _, hyield, standing =>
    walk_seen hcall first hfirst (through_seen hcall hsteps hyield) standing
  | .concat parts, _, hfits, _, _, hyield, standing =>
    walkAll_seen hcall parts hfits hyield standing
  | .mistyped, _, hfits, _, _, _, _ => hfits.elim

theorem walkAll_seen (hcall : call.SeenAt see see' kinds call') : ∀ (parts : List (Plan V S))
    {out : Payload V → Prop}, Plan.FitsAll kinds parts out →
      ∀ {yield yield' : Payload V → Effect V ω}, Effect.SeenAt see see' out yield yield' →
        ∀ standing, (walkAll service.answerer call parts yield standing).SeenBelow see see'
          (walkAll service.answerer call' parts yield' standing)
  | [], _, _, _, _, _, _ => Or.inl ⟨rfl, rfl⟩
  | part :: parts, _, ⟨hpart, hparts⟩, _, _, hyield, standing =>
    (walk_seen hcall part hpart hyield standing).andThen (walkAll_seen hcall parts hparts hyield)

end

/-- Parts that are seen as others are. -/
theorem walkAll_map_seen {ι : Type} {answerer : Answerer V ω} (left right : ι → Plan V S)
    {parts : List ι} (hparts : ∀ part ∈ parts, ∀ standing,
      (walk answerer call (left part) yield standing).SeenBelow see see'
        (walk answerer call' (right part) yield' standing)) (standing : Standing ω) :
    (walkAll answerer call (parts.map left) yield standing).SeenBelow see see'
      (walkAll answerer call' (parts.map right) yield' standing) := by
  induction parts generalizing standing with
  | nil => exact Or.inl ⟨rfl, rfl⟩
  | cons part parts ih =>
    rw [List.forall_mem_cons] at hparts
    exact (hparts.1 standing).andThen (ih hparts.2)

theorem calling_seen [Resumes V S] (hkinds : kinds.Sound) {depth depth' : ℕ}
    (hdepth : depth ≤ depth') :
    (calling service.answerer depth : Calling V S ω).SeenAt see see' kinds
      (calling service.answerer depth') := by
  induction depth generalizing depth' with
  | zero => exact fun _ _ _ _ _ _ _ _ _ _ ↦ Account.seenBelow_of_cut _
  | succ depth ih =>
    obtain ⟨depth', rfl⟩ := Nat.exists_eq_succ_of_ne_zero (Nat.ne_zero_of_lt hdepth)
    intro step into out hstep yield yield' hyield value hvalue standing
    exact walk_seen (ih (Nat.succ_le_succ_iff.mp hdepth)) (resume step value)
      (hkinds step into out hstep value hvalue) hyield standing

/-- The evaluation of a plan is seen to be the same if what is done with its values is. -/
theorem evaluate_seen [Resumes V S] (hkinds : kinds.Sound) {depth depth' : ℕ}
    (hdepth : depth ≤ depth') {plan : Plan V S} {out : Payload V → Prop}
    (hplan : plan.Fits kinds out) (hyield : Effect.SeenAt see see' out yield yield')
    (standing : Standing ω) :
    (evaluate service.answerer depth plan yield standing).SeenBelow see see'
      (evaluate service.answerer depth' plan yield' standing) :=
  walk_seen (calling_seen hkinds hdepth) plan hplan hyield standing

end Evaluation

end Errand
