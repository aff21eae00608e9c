import Errand.Proofs.Flow.Scripted
import Errand.Proofs.Run.History
import Errand.Values

/-!
A run over a flow in good health shows what the recursive evaluation of its plan shows: the same
requests, values and errors in the same order, however often the flow keeps the run waiting
(`run_shows_account`).

The stack of a run is related to the evaluation through the chains of its tasks. A chain `Delivers`
if a run that hands it a value does what the evaluation does with that value, and then a run
`Follows` the evaluation of any plan put on top of the stack, with the tasks below left as they are
(`follows_walk`). An evaluation that is cut off at some depth has been followed for as many moves
(`performs_calling`), so that every move of a run that goes on for ever is part of one that is deep
enough.
-/

set_option autoImplicit false

namespace Errand

variable {V : ValueTypes} {S σ ε ω : Type}

/-- What a happening shows. -/
def Happening.milestone? : Happening V S ε → Option (Milestone V)
  | .call (.dispatch submission _) => some (.dispatched submission)
  | .returned (.ready (some (.ok value))) => some (.yielded value)
  | .returned (.ready (some (.error (.rejected ticket cause)))) => some (.rejected ticket cause)
  | .returned (.ready (some (.error .mistyped))) => some .mistyped
  | _ => none

/-- What a history shows. -/
def traceOf (history : List (Happening V S ε)) : List (Milestone V) :=
  history.filterMap Happening.milestone?

@[simp] theorem traceOf_append (h h' : List (Happening V S ε)) :
    traceOf (h ++ h') = traceOf h ++ traceOf h' :=
  List.filterMap_append

theorem traceOf_silent {h : List (Happening V S ε)} {happening : Happening V S ε}
    (hsilent : happening.milestone? = none) : traceOf (h ++ [happening]) = traceOf h := by
  simp [traceOf, hsilent]

namespace Course

/-- What a course has shown. -/
def trace (c : Course V S σ ε) : List (Milestone V) := traceOf c.history

variable [Resumes V S] (flow : Flow V σ ε) (holds : Duty V → ω → σ → Prop)

/-- A course has come where an evaluation ends, `rest` being the tasks below. -/
def EndsAs (rest : List (Task V S)) (bound n : ℕ) (c : Course V S σ ε) : Finish ω → Prop
  | .completed standing =>
    c.run = ⟨rest, none, standing.tickets, false⟩ ∧ holds .idle standing.service c.state
  | .mistyped => c.run.finished = true
  | .cut => bound ≤ n ∧ c.run.finished = false

/-- After some moves the course has shown what the account does and has come where it ends. An
account that is cut off takes at least `bound` moves. -/
def Follows (bound : ℕ) (rest : List (Task V S)) (shown : List (Milestone V))
    (c : Course V S σ ε) (a : Account V ω) : Prop :=
  ∃ n, ((next flow)^[n] c).trace = shown ++ a.trace ∧
    EndsAs holds rest bound n ((next flow)^[n] c) a.finish

/-- Whatever value is handed to the chain, the course goes on as `yield` does. -/
def Delivers (bound : ℕ) (chain : List S) (yield : Payload V → Effect V ω) : Prop :=
  ∀ value rest standing s h, holds .idle standing.service s →
    Follows flow holds bound rest (traceOf h)
      (handed value chain ⟨⟨rest, none, standing.tickets, false⟩, s, h⟩) (yield value standing)

variable {flow holds} {bound : ℕ} {rest : List (Task V S)} {shown : List (Milestone V)}
  {c : Course V S σ ε} {a : Account V ω}

omit [Resumes V S] in
/-- Where an evaluation ends does not depend on how it was reached, but for the moves taken by one
that is cut off. -/
theorem EndsAs.imp {bound' n n' : ℕ} {finish : Finish ω}
    (hends : EndsAs holds rest bound n c finish) (hmoves : bound ≤ n → bound' ≤ n') :
    EndsAs holds rest bound' n' c finish := by
  cases finish with
  | completed standing => exact hends
  | mistyped => exact hends
  | cut => exact ⟨hmoves hends.1, hends.2⟩

theorem Follows.mono {bound' : ℕ} (hfollows : Follows flow holds bound rest shown c a)
    (hbound : bound' ≤ bound) : Follows flow holds bound' rest shown c a := by
  obtain ⟨n, htrace, hends⟩ := hfollows
  exact ⟨n, htrace, hends.imp hbound.trans⟩

theorem Follows.of_next (hfollows : Follows flow holds bound rest shown (c.next flow) a) :
    Follows flow holds (bound + 1) rest shown c a := by
  obtain ⟨n, htrace, hends⟩ := hfollows
  rw [← Function.iterate_succ_apply] at htrace hends
  exact ⟨n + 1, htrace, hends.imp Nat.succ_le_succ⟩

theorem Follows.after {shown' : List (Milestone V)}
    (hfollows : Follows flow holds bound rest (shown ++ shown') c a) :
    Follows flow holds bound rest shown c (a.after shown') := by
  obtain ⟨n, htrace, hends⟩ := hfollows
  exact ⟨n, by rw [htrace, List.append_assoc]; rfl, hends⟩

/-- A completed account is followed by what is done next. -/
theorem Follows.andThen {rest' : List (Task V S)} {following : Effect V ω}
    (hfollows : Follows flow holds bound rest shown c a)
    (hnext : ∀ standing s h, holds .idle standing.service s →
      Follows flow holds bound rest' (traceOf h) ⟨⟨rest, none, standing.tickets, false⟩, s, h⟩
        (following standing)) :
    Follows flow holds bound rest' shown c (a.andThen following) := by
  obtain ⟨n, htrace, hends⟩ := hfollows
  rcases hfinish : a.finish with standing | _ | _
  · rw [hfinish] at hends
    obtain ⟨hrun, hidle⟩ := hends
    have hfollowing := hnext standing _ ((next flow)^[n] c).history hidle
    rw [← hrun] at hfollowing
    obtain ⟨m, htrace', hends'⟩ := hfollowing
    have hmoves : (next flow)^[m + n] c = (next flow)^[m] ((next flow)^[n] c) :=
      Function.iterate_add_apply _ m n c
    simp only [Account.andThen, hfinish]
    refine ⟨m + n, ?_, ?_⟩
    · rw [hmoves]
      refine htrace'.trans ?_
      rw [← trace, htrace, List.append_assoc]
      rfl
    · rw [hmoves]
      exact hends'.imp fun hbound ↦ hbound.trans (Nat.le_add_right m n)
  · simp only [Account.andThen, hfinish]
    refine ⟨n, htrace, ?_⟩
    rw [hfinish] at hends ⊢
    exact hends
  · simp only [Account.andThen, hfinish]
    refine ⟨n, htrace, ?_⟩
    rw [hfinish] at hends ⊢
    exact hends

/-! ### One submission -/

section Exchange

variable {answerer : Answerer V ω} {chain : List S} {yield : Payload V → Effect V ω} {s : σ}
  {h : List (Happening V S ε)}

theorem Delivers.mono {bound' : ℕ} (hyield : Delivers flow holds bound chain yield)
    (hbound : bound' ≤ bound) : Delivers flow holds bound' chain yield :=
  fun value rest standing s h hidle ↦ (hyield value rest standing s h hidle).mono hbound

/-- A run that is kept waiting asks again. -/
theorem Follows.of_pending {c' : Course V S σ ε} (hnext : c.next flow = c')
    (hfollows : Follows flow holds bound rest shown (c'.next flow) a) :
    Follows flow holds bound rest shown (c.next flow) a := by
  rw [hnext]
  exact hfollows.of_next.mono (Nat.le_succ bound)

variable (hyield : Delivers flow holds bound chain yield) (hshown : traceOf h = shown)
include hyield hshown

theorem follows_landed (ticket : Ticket) (answer : Answer (Payload V)) (standing : Standing ω)
    (hidle : holds .idle standing.service s) :
    Follows flow holds bound rest shown
      (landed ticket chain ⟨⟨rest, none, standing.tickets, false⟩, s, h⟩ answer)
      (conclude ticket yield answer standing) := by
  subst hshown
  cases answer with
  | success value => exact hyield value rest standing s h hidle
  | filtered => exact ⟨0, (List.append_nil _).symm, rfl, hidle⟩
  | failure cause => exact ⟨0, traceOf_append _ _, rfl, hidle⟩

theorem follows_await {ticket : Ticket} {answer : Answer (Payload V)} {k : ℕ} {w : ω}
    (hreply : Eventually flow.pollReply (fun reply s' ↦
      reply = ⟨ticket, answer⟩ ∧ holds .idle w s') s) :
    Follows flow holds bound rest shown
      (next flow ⟨⟨rest, some ⟨ticket, .await, chain⟩, k, false⟩, s, h⟩)
      (conclude ticket yield answer ⟨k, w⟩) := by
  induction hreply generalizing h with
  | now hpoll hafter =>
    obtain ⟨rfl, hidle⟩ := hafter
    rw [next_await, hpoll]
    simp only [if_true]
    exact follows_landed hyield ((traceOf_silent rfl).trans hshown) ticket answer ⟨k, w⟩
      hidle
  | later hpoll _ ih =>
    refine Follows.of_pending next_await ?_
    rw [hpoll]
    exact ih ((traceOf_silent rfl).trans ((traceOf_silent rfl).trans hshown))

variable (hserving : flow.Serving answerer holds) {k : ℕ} {w : ω}
include hserving

theorem follows_flush (submission : Submission V)
    (hflush : Eventually flow.pollFlush (fun _ ↦ holds (.sent submission) w) s) :
    Follows flow holds bound rest shown
      (next flow ⟨⟨rest, some ⟨submission.ticket, .flush, chain⟩, k, false⟩, s, h⟩)
      (conclude submission.ticket yield (answerer submission w).1
        ⟨k, (answerer submission w).2⟩) := by
  induction hflush generalizing h with
  | now hpoll hsent =>
    rw [next_flush, hpoll]
    exact follows_await hyield ((traceOf_silent rfl).trans hshown) (hserving.reply hsent)
  | later hpoll _ ih =>
    refine Follows.of_pending next_flush ?_
    rw [hpoll]
    exact ih ((traceOf_silent rfl).trans ((traceOf_silent rfl).trans hshown))

theorem follows_dispatch (submission : Submission V)
    (hready : Eventually flow.pollReady (fun _ ↦ holds .ready w) s) :
    Follows flow holds bound rest shown
      (next flow ⟨⟨rest, some ⟨submission.ticket, .dispatch submission, chain⟩, k, false⟩, s, h⟩)
      ((conclude submission.ticket yield (answerer submission w).1
        ⟨k, (answerer submission w).2⟩).after [.dispatched submission]) := by
  induction hready generalizing h with
  | now hpoll hready =>
    obtain ⟨s'', hstart, hholding⟩ := hserving.dispatch submission hready
    rw [next_dispatch, hpoll]
    simp only [hstart]
    refine Follows.after (follows_flush hyield ?_ hserving submission (hserving.flush hholding))
    refine (traceOf_append _ _).trans ?_
    rw [called, traceOf_silent rfl, hshown]
    rfl
  | later hpoll _ ih =>
    refine Follows.of_pending next_dispatch ?_
    rw [hpoll]
    exact ih ((traceOf_silent rfl).trans ((traceOf_silent rfl).trans hshown))

end Exchange

/-! ### Whole plans -/

section Plans

variable {answerer : Answerer V ω} {call : Calling V S ω} {s : σ} {h : List (Happening V S ε)}

/-- Calls of continuations that a run makes as `call` does. -/
def Performs (flow : Flow V σ ε) (holds : Duty V → ω → σ → Prop) (bound : ℕ)
    (call : Calling V S ω) : Prop :=
  ∀ step chain yield, Delivers flow holds bound chain yield →
    Delivers flow holds bound (step :: chain) (call step yield)

/-- A chain that starts with the steps of a sequence takes values through them. -/
theorem Performs.through (hcall : Performs flow holds bound call) (steps : List S)
    {chain : List S} {yield : Payload V → Effect V ω}
    (hyield : Delivers flow holds bound chain yield) :
    Delivers flow holds bound (steps.reverse ++ chain) (through call steps yield) := by
  induction steps generalizing chain yield with
  | nil => exact hyield
  | cons step steps ih =>
    rw [List.reverse_cons, List.append_assoc, List.singleton_append]
    exact ih (hcall step chain yield hyield)

mutual

/-- A run walks through the topmost plan as the evaluation does, and leaves the tasks below. -/
theorem follows_walk (hserving : flow.Serving answerer holds)
    (hcall : Performs flow holds bound call) : ∀ (plan : Plan V S) {chain : List S}
    {yield : Payload V → Effect V ω}, Delivers flow holds bound chain yield →
      ∀ rest standing s h, holds .idle standing.service s →
        Follows flow holds (bound + 1) rest (traceOf h)
          ⟨⟨⟨plan, chain⟩ :: rest, none, standing.tickets, false⟩, s, h⟩
          (walk answerer call plan yield standing)
  | .done value, _, _, hyield, rest, standing, s, h, hidle => by
    refine Follows.of_next ?_
    rw [next_done]
    exact hyield value rest standing s h hidle
  | .empty, _, _, _, _, _, _, _, hidle => by
    refine Follows.of_next ?_
    rw [next_empty]
    exact ⟨0, (List.append_nil _).symm, rfl, hidle⟩
  | .submit request, _, _, hyield, _, standing, _, _, hidle => by
    refine Follows.of_next ?_
    rw [next_submit]
    refine (Follows.of_next ?_).mono (Nat.le_succ bound)
    exact follows_dispatch hyield rfl hserving ⟨⟨standing.tickets⟩, request⟩ (hserving.ready hidle)
  | .sequence first steps, _, _, hyield, rest, standing, s, h, hidle => by
    refine (Follows.of_next ?_).mono (Nat.le_succ (bound + 1))
    rw [next_sequence]
    exact follows_walk hserving hcall first (hcall.through steps hyield) rest standing s h hidle
  | .concat parts, _, _, hyield, rest, standing, s, h, hidle => by
    refine (Follows.of_next ?_).mono (Nat.le_succ (bound + 1))
    rw [next_concat]
    exact follows_walkAll hserving hcall parts hyield rest standing s h hidle
  | .mistyped, _, _, _, _, _, _, _, _ => by
    refine Follows.of_next ?_
    rw [next_mistyped]
    exact ⟨0, traceOf_append _ _, rfl⟩

theorem follows_walkAll (hserving : flow.Serving answerer holds)
    (hcall : Performs flow holds bound call) : ∀ (parts : List (Plan V S)) {chain : List S}
    {yield : Payload V → Effect V ω}, Delivers flow holds bound chain yield →
      ∀ rest standing s h, holds .idle standing.service s →
        Follows flow holds (bound + 1) rest (traceOf h)
          ⟨⟨parts.map (fun part ↦ ⟨part, chain⟩) ++ rest, none, standing.tickets, false⟩, s, h⟩
          (walkAll answerer call parts yield standing)
  | [], _, _, _, _, _, _, _, hidle => ⟨0, (List.append_nil _).symm, rfl, hidle⟩
  | part :: parts, _, _, hyield, rest, standing, s, h, hidle =>
    (follows_walk hserving hcall part hyield _ standing s h hidle).andThen
      (follows_walkAll hserving hcall parts hyield rest)

end

variable (hserving : flow.Serving answerer holds)
include hserving

/-- A run calls continuations as the evaluation does. One that is cut off for the depth of its calls
has made as many moves. -/
theorem performs_calling (depth : ℕ) :
    Performs flow holds depth (calling answerer depth : Calling V S ω) := by
  induction depth with
  | zero =>
    intro step chain yield _ value rest standing s h hidle
    refine ⟨0, ?_, Nat.zero_le 0, rfl⟩
    exact (traceOf_silent rfl).trans (List.append_nil _).symm
  | succ depth ih =>
    intro step chain yield hyield value rest standing s h hidle
    have hfollows := follows_walk hserving ih (resume step value)
      (hyield.mono (Nat.le_succ depth)) rest standing s (h ++ [.resumed step value]) hidle
    rw [traceOf_silent rfl] at hfollows
    exact hfollows

/-- The run of a plan does what its evaluation does, to any depth. -/
theorem follows_account (plan : Plan V S) {w : ω} (hidle : holds .idle w s) (depth : ℕ) :
    Follows flow holds depth [] [] (start plan s) (account answerer depth plan w) := by
  have hyield : Delivers (S := S) flow holds depth [] .yields := fun _ _ _ _ _ hidle ↦
    ⟨0, traceOf_append _ _, rfl, hidle⟩
  exact (follows_walk hserving (performs_calling hserving depth) plan hyield [] ⟨0, w⟩ s []
    hidle).mono (Nat.le_succ depth)

end Plans

/-! ### Runs that are over -/

/-- Nothing is left of the plan. -/
def Spent (c : Course V S σ ε) : Prop :=
  c.run.finished = true ∨ c.run.tasks = [] ∧ c.run.flight = none

omit [Resumes V S] in
theorem EndsAs.spent {n : ℕ} {finish : Finish ω} (hends : EndsAs holds [] bound n c finish)
    (huncut : finish ≠ .cut) : c.Spent := by
  cases finish with
  | completed standing => exact Or.inr (by rw [hends.1]; exact ⟨rfl, rfl⟩)
  | mistyped => exact Or.inl hends
  | cut => exact absurd rfl huncut

/-- A run with nothing left shows nothing more, whatever its flow does. -/
theorem Spent.next (hspent : c.Spent) (flow : Flow V σ ε) :
    (c.next flow).Spent ∧ (c.next flow).trace = c.trace := by
  obtain ⟨⟨tasks, flight, k, finished⟩, s, h⟩ := c
  cases finished with
  | true =>
    rw [next_finished]
    exact ⟨Or.inl rfl, traceOf_silent rfl⟩
  | false =>
    obtain ⟨rfl, rfl⟩ : tasks = [] ∧ flight = none := by simpa [Spent] using hspent
    rw [next_close]
    rcases flow.pollClose s with ⟨_ | _ | _, s'⟩
    · exact ⟨Or.inr ⟨rfl, rfl⟩, (traceOf_silent rfl).trans (traceOf_silent rfl)⟩
    · exact ⟨Or.inl rfl, (traceOf_silent rfl).trans (traceOf_silent rfl)⟩
    · exact ⟨Or.inl rfl, (traceOf_silent rfl).trans (traceOf_silent rfl)⟩

theorem Spent.trace_iterate (hspent : c.Spent) (flow : Flow V σ ε) (n : ℕ) :
    ((Course.next flow)^[n] c).trace = c.trace := by
  induction n generalizing c with
  | zero => rfl
  | succ n ih =>
    obtain ⟨hnext, htrace⟩ := hspent.next flow
    rw [Function.iterate_succ_apply, ih hnext, htrace]

section Whole

variable {plan : Plan V S} {s : σ} {m n : ℕ}

/-- What has been shown stays, and a run with nothing left has shown everything. -/
theorem trace_prefix_after (hmn : m ≤ n ∨ (after flow plan s n).Spent) :
    (after flow plan s m).trace <+: (after flow plan s n).trace := by
  by_cases hle : m ≤ n
  · exact (history_after_mono flow plan s hle).filterMap Happening.milestone?
  · obtain ⟨k, rfl⟩ := Nat.exists_eq_add_of_le (Nat.le_of_not_le hle)
    rw [after_add, (hmn.resolve_left hle).trace_iterate]

theorem finished_after_mono (hfinished : (after flow plan s m).run.finished = true)
    (hmn : m ≤ n) : (after flow plan s n).run.finished = true := by
  obtain ⟨k, rfl⟩ := Nat.exists_eq_add_of_le hmn
  rw [after_add, iterate_of_finished flow hfinished]
  exact hfinished

/-- Two runs of a plan that have nothing left have shown the same. -/
theorem trace_after_eq (hm : (after flow plan s m).Spent) (hn : (after flow plan s n).Spent) :
    (after flow plan s m).trace = (after flow plan s n).trace := by
  have hmn := trace_prefix_after (m := m) (Or.inr hn)
  have hnm := trace_prefix_after (m := n) (Or.inr hm)
  exact hmn.eq_of_length (le_antisymm hmn.length_le hnm.length_le)

end Whole

/-- A run comes to show so much. -/
def Shows (flow : Flow V σ ε) (plan : Plan V S) (s : σ) (shown : List (Milestone V)) : Prop :=
  ∃ n, shown <+: (after flow plan s n).trace

/-- A run comes to its end having shown so much. -/
def EndsShowing (flow : Flow V σ ε) (plan : Plan V S) (s : σ) (shown : List (Milestone V)) :
    Prop :=
  ∃ n, .returned (.ready none) ∈ (after flow plan s n).history ∧
    (after flow plan s n).trace = shown

/-- A flow that is asked to close does so in the end. -/
theorem exists_returned_none {s : σ} {k : ℕ} {h : List (Happening V S ε)}
    (hclose : Eventually flow.pollClose (fun _ _ ↦ True) s) :
    ∃ n, .returned (.ready none) ∈
      ((Course.next flow)^[n] ⟨⟨[], none, k, false⟩, s, h⟩).history := by
  induction hclose generalizing h with
  | now hpoll _ =>
    refine ⟨1, ?_⟩
    rw [Function.iterate_one, next_close, hpoll]
    simp [returning]
  | later hpoll _ ih =>
    obtain ⟨n, hnone⟩ := ih (h := h ++ [.call (.close .pending)] ++ [.returned .pending])
    refine ⟨n + 1, ?_⟩
    rw [Function.iterate_succ_apply, next_close, hpoll]
    exact hnone

section Equivalence

variable {answerer : Answerer V ω} {w : ω} {s : σ}

/-- What the run of a plan comes to show is what its evaluation shows at some depth. -/
theorem shows_iff (hserves : flow.Serves answerer w s) (plan : Plan V S)
    (shown : List (Milestone V)) :
    Shows flow plan s shown ↔ ∃ depth, shown <+: (account answerer depth plan w).trace := by
  obtain ⟨holds, hserving, hidle⟩ := hserves
  constructor
  · rintro ⟨n, hshown⟩
    obtain ⟨m, htrace, hends⟩ := follows_account hserving plan hidle n
    rw [← after, List.nil_append] at htrace
    rw [← after] at hends
    refine ⟨n, htrace ▸ hshown.trans (trace_prefix_after ?_)⟩
    by_cases hcut : (account answerer n plan w).finish = .cut
    · rw [hcut] at hends
      exact Or.inl hends.1
    · exact Or.inr (hends.spent hcut)
  · rintro ⟨depth, hshown⟩
    obtain ⟨n, htrace, -⟩ := follows_account hserving plan hidle depth
    exact ⟨n, by rwa [after, htrace]⟩

/-- The run of a plan comes to its end if its evaluation does, and has shown the same. -/
theorem endsShowing_iff (hserves : flow.Serves answerer w s) (plan : Plan V S)
    (shown : List (Milestone V)) :
    EndsShowing flow plan s shown ↔
      ∃ depth, (account answerer depth plan w).finish ≠ .cut ∧
        (account answerer depth plan w).trace = shown := by
  obtain ⟨holds, hserving, hidle⟩ := hserves
  constructor
  · rintro ⟨n, hnone, rfl⟩
    have hfinished := finished_of_returned_none flow plan s n hnone
    obtain ⟨m, htrace, hends⟩ := follows_account hserving plan hidle n
    rw [← after, List.nil_append] at htrace
    rw [← after] at hends
    have huncut : (account answerer n plan w).finish ≠ .cut := by
      intro hcut
      rw [hcut] at hends
      obtain ⟨hmoves, hrunning⟩ := hends
      rw [finished_after_mono hfinished hmoves] at hrunning
      cases hrunning
    exact ⟨n, huncut, htrace ▸ trace_after_eq (hends.spent huncut) (Or.inl hfinished)⟩
  · rintro ⟨depth, huncut, rfl⟩
    obtain ⟨n, htrace, hends⟩ := follows_account hserving plan hidle depth
    rw [← after, List.nil_append] at htrace
    rw [← after] at hends
    have hcloses : ∃ m, .returned (.ready none) ∈
        ((Course.next flow)^[m] (after flow plan s n)).history := by
      rcases hfinish : (account answerer depth plan w).finish with standing | _ | _ <;>
        rw [hfinish] at hends
      · obtain ⟨hrun, hidle⟩ := hends
        have hclosed := exists_returned_none (S := S) (k := standing.tickets)
          (h := (after flow plan s n).history) (hserving.close hidle)
        rwa [← hrun] at hclosed
      · refine ⟨1, ?_⟩
        rw [iterate_of_finished flow hends]
        simp
      · exact absurd hfinish huncut
    obtain ⟨m, hnone⟩ := hcloses
    refine ⟨n + m, by rwa [after_add], ?_⟩
    rw [after_add, (hends.spent huncut).trace_iterate, htrace]

/-- A run shows what the evaluation of its plan shows, as far as either goes: in the end if there is
one, and at every moment before it. So whenever an item is returned, the requests dispatched are
those that come before it in the evaluation. -/
theorem run_shows_account (hserves : flow.Serves answerer w s) (plan : Plan V S) :
    (∀ shown, Shows flow plan s shown ↔
        ∃ depth, shown <+: (account answerer depth plan w).trace) ∧
      (∀ shown, EndsShowing flow plan s shown ↔
        ∃ depth, (account answerer depth plan w).finish ≠ .cut ∧
          (account answerer depth plan w).trace = shown) ∧
      ∀ n past, past <+: (after flow plan s n).history →
        ∃ depth, traceOf past <+: (account answerer depth plan w).trace := by
  refine ⟨shows_iff hserves plan, endsShowing_iff hserves plan, ?_⟩
  intro n past hpast
  exact (shows_iff hserves plan (traceOf past)).mp ⟨n, hpast.filterMap Happening.milestone?⟩

/-- A script that makes every call wait twice is served all the same. -/
theorem run_shows_account_of_waiting :
    let service : TimedService values ℕ := fun _ _ n ↦ (.ok (.ok [n.toUInt8]), n + 1)
    let loop : EventLoop values ℕ := .start 5 fun _ ↦ [.wait, .wait]
    let request : Request (Payload values) :=
      { route := ⟨.get, "/"⟩
        decode := fun response ↦ .ok (response.body.head?.map Carried.erase)
        label := "Get" }
    let twice : Step values := .mk fun value ↦ .concat [.done value, .submit request, .done value]
    let plan : Erased values := .concat [.sequence (.submit request) [twice], .submit request]
    EndsShowing (EventLoop.flow service .caller .script) plan loop
      [.dispatched ⟨⟨0⟩, request⟩, .yielded (.value .u8 5), .dispatched ⟨⟨1⟩, request⟩,
        .yielded (.value .u8 6), .yielded (.value .u8 5), .dispatched ⟨⟨2⟩, request⟩,
        .yielded (.value .u8 7)] := by
  intro service loop request twice plan
  have hpatient : loop.script.Patient := by
    intro call cue hcue
    have hwait : cue ∈ [Cue.wait, Cue.wait] := hcue
    simp_all
  exact ((run_shows_account (EventLoop.serves_script service .caller hpatient rfl) plan).2.1 _).mpr
    ⟨1, nofun, rfl⟩

end Equivalence

end Course

end Errand
