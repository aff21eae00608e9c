import Errand.Proofs.Channel.Counter
import Errand.Proofs.Run.Agreement

/-!
How many submissions a run says that it has made, and how many its flow has taken. A submission
counts from the moment it is taken off the stack, and the flow takes it later or not at all. Between
two polls, of either stream, the two numbers are the same unless the last call was about a
submission that the flow has not taken: it was not ready for it, or failed to be, or refused it.
Then the run has counted one more (`Run.submitted_between_polls`, `Run.submitted_untaken`).
-/

set_option autoImplicit false

namespace Errand

variable {V : ValueTypes} {S σ ε : Type}

/-- The call was about a submission that the flow has not taken. -/
def FlowCall.withholds : FlowCall V ε → Bool
  | .ready _ | .dispatch _ (.error _) => true
  | .dispatch _ (.ok _) | .flush _ | .close _ | .reply _ => false

/-- How many submissions the flow took. -/
def takenIn (record : List (FlowCall V ε)) : ℕ := (record.filterMap FlowCall.accepted?).length

/-- How many submissions the flow was asked about last and has not taken: one or none. -/
def withheldIn (record : List (FlowCall V ε)) : ℕ :=
  if record.getLast?.any FlowCall.withholds then 1 else 0

theorem takenIn_append (record calls : List (FlowCall V ε)) :
    takenIn (record ++ calls) = takenIn record + takenIn calls := by
  simp [takenIn]

theorem withheldIn_append (record : List (FlowCall V ε)) {calls : List (FlowCall V ε)}
    (hcalls : calls ≠ []) : withheldIn (record ++ calls) = withheldIn calls := by
  rw [withheldIn, withheldIn, List.getLast?_append_of_ne_nil _ hcalls]

/-! ### Exchanges -/

/-- How many submissions are yet to be handed over at a stage. -/
def Stage.held : Stage V → ℕ
  | dispatch _ => 1
  | flush | await => 0

/-- How many submissions are yet to be handed over, for an exchange to go on. -/
def Exchange.held : Exchange V ε → Option ℕ
  | waiting stage => some stage.held
  | replied _ => some 0
  | refused _ | lost _ => none

/-- With these calls, an exchange has handed over the submission it held or been kept from it. -/
structure Exchange.Accounts (exchange : Exchange V ε) (held : ℕ) (calls : List (FlowCall V ε)) :
    Prop where
  called : calls ≠ []
  handed : takenIn calls + withheldIn calls = held
  goesOn : ∀ held', exchange.held = some held' → held' = withheldIn calls

namespace Stage

variable (flow : Flow V σ ε) (s : σ)

theorem accounts_await : (poll flow .await s).1.Accounts 0 (calls flow .await s) := by
  rw [calls_await]
  refine ⟨List.cons_ne_nil _ _, ?_, ?_⟩
  · rcases flow.pollReply s with ⟨_ | _ | _, s'⟩ <;> rfl
  · rcases hreply : flow.pollReply s with ⟨_ | _ | _, s'⟩ <;>
      simp [poll, pollAwait, hreply, Exchange.held, held, withheldIn, FlowCall.withholds]

theorem accounts_flush : (poll flow .flush s).1.Accounts 0 (calls flow .flush s) := by
  rcases hflush : flow.pollFlush s with ⟨_ | e | _, s'⟩
  · simp only [poll, pollFlush, calls, Flow.recorded_pollFlush, hflush]
    exact ⟨List.cons_ne_nil _ _, rfl, by simp [Exchange.held, held, withheldIn, FlowCall.withholds]⟩
  · simp only [poll, pollFlush, calls, Flow.recorded_pollFlush, hflush]
    exact ⟨List.cons_ne_nil _ _, rfl, by simp [Exchange.held]⟩
  · have hawait := accounts_await flow s'
    rw [calls_flush hflush]
    simp only [poll, pollFlush, hflush]
    refine ⟨List.cons_ne_nil _ _, ?_, ?_⟩
    · rw [takenIn_append, withheldIn_append _ hawait.called, Nat.add_assoc, hawait.handed]
      rfl
    · rw [withheldIn_append _ hawait.called]
      exact hawait.goesOn

theorem accounts_dispatch (submission : Submission V) :
    (poll flow (.dispatch submission) s).1.Accounts 1 (calls flow (.dispatch submission) s) := by
  rcases hready : flow.pollReady s with ⟨_ | e | _, s'⟩
  · simp only [poll, pollDispatch, calls, Flow.recorded_pollReady, hready]
    exact ⟨List.cons_ne_nil _ _, rfl, by simp [Exchange.held, held, withheldIn, FlowCall.withholds]⟩
  · simp only [poll, pollDispatch, calls, Flow.recorded_pollReady, hready]
    exact ⟨List.cons_ne_nil _ _, rfl, by simp [Exchange.held]⟩
  · rcases hstart : flow.startDispatch submission s' with ⟨e | _, s''⟩
    · simp only [poll, pollDispatch, calls, Flow.recorded_pollReady, Flow.recorded_startDispatch,
        hready, hstart]
      exact ⟨List.cons_ne_nil _ _, rfl, by simp [Exchange.held]⟩
    · have hflush := accounts_flush flow s''
      rw [calls_dispatch hready hstart]
      simp only [poll, pollDispatch, hready, hstart]
      refine ⟨List.cons_ne_nil _ _, ?_, ?_⟩
      · rw [takenIn_append, withheldIn_append _ hflush.called, Nat.add_assoc, hflush.handed]
        rfl
      · rw [withheldIn_append _ hflush.called]
        exact hflush.goesOn

theorem accounts (stage : Stage V) :
    (stage.poll flow s).1.Accounts stage.held (stage.calls flow s) := by
  cases stage with
  | dispatch submission => exact accounts_dispatch flow s submission
  | flush => exact accounts_flush flow s
  | await => exact accounts_await flow s

end Stage

/-! ### Moves -/

namespace Run

/-- How many submissions have been counted that are yet to be handed over. -/
def held (run : Run V S) : ℕ := (run.flight.map fun flight ↦ flight.stage.held).getD 0

/-- The run has counted what the flow took and what is yet to be handed over. Where it is over, the
last submission may have been kept from the flow. -/
structure Counted (run : Run V S) (record : List (FlowCall V ε)) : Prop where
  goesOn : run.finished = false →
    run.submitted = takenIn record + run.held ∧ withheldIn record ≤ run.held
  isOver : run.finished = true → run.submitted = takenIn record + withheldIn record

/-- Moreover, what is yet to be handed over was asked about last. -/
structure Tallies (run : Run V S) (record : List (FlowCall V ε)) : Prop where
  total : run.submitted = takenIn record + withheldIn record
  held : run.finished = false → withheldIn record = run.held

theorem Tallies.counted {run : Run V S} {record : List (FlowCall V ε)}
    (htallies : run.Tallies record) : run.Counted record :=
  ⟨fun hopen ↦ ⟨htallies.held hopen ▸ htallies.total, (htallies.held hopen).le⟩,
    fun _ ↦ htallies.total⟩

theorem tallies_start (plan : Plan V S) : (start plan).Tallies ([] : List (FlowCall V ε)) :=
  ⟨rfl, fun _ ↦ rfl⟩

/-- Of a run that is over only the total is asked. -/
theorem Tallies.of_over {run : Run V S} {record : List (FlowCall V ε)} (hover : run.finished = true)
    (htotal : run.submitted = takenIn record + withheldIn record) : run.Tallies record :=
  ⟨htotal, fun hopen ↦ by simp [hover] at hopen⟩

/-- A run that holds nothing has counted what the flow took. -/
theorem Counted.tallies {run : Run V S} {record : List (FlowCall V ε)}
    (hcounted : run.Counted record) (hheld : run.held = 0) : run.Tallies record := by
  cases hfinished : run.finished with
  | true => exact .of_over hfinished (hcounted.isOver hfinished)
  | false =>
    obtain ⟨htotal, hwithheld⟩ := hcounted.goesOn hfinished
    have hnone : withheldIn record = 0 := Nat.le_zero.mp (hheld ▸ hwithheld)
    exact ⟨by rw [htotal, hheld, hnone], fun _ ↦ by rw [hheld, hnone]⟩

/-- A run that goes on and holds nothing has counted just what the flow took. -/
theorem Tallies.settled {run : Run V S} {record : List (FlowCall V ε)}
    (htallies : run.Tallies record) (hopen : run.finished = false) (hheld : run.held = 0) :
    withheldIn record = 0 ∧ run.submitted = takenIn record := by
  have hwithheld : withheldIn record = 0 := (htallies.held hopen).trans hheld
  exact ⟨hwithheld, by simpa [hwithheld] using htallies.total⟩

theorem Tallies.counted_and {run : Run V S} {record : List (FlowCall V ε)} {P : Prop}
    (htallies : run.Tallies record) : run.Counted record ∧ (P → run.Tallies record) :=
  ⟨htallies.counted, fun _ ↦ htallies⟩

/-- Asking for the flow to be closed leaves the count as it is. -/
theorem Tallies.close {k : ℕ} {record : List (FlowCall V ε)}
    (htallies : (⟨[], none, k, false⟩ : Run V S).Tallies record) (flow : Flow V σ ε) (s : σ) :
    (Run.close flow (⟨[], none, k, false⟩ : Run V S) s).1.2.Tallies
      (record ++ [.close (flow.pollClose s).1]) := by
  obtain ⟨-, htotal⟩ := htallies.settled rfl rfl
  have hwithheld : withheldIn (record ++ [.close (flow.pollClose s).1]) = 0 :=
    withheldIn_append _ (List.cons_ne_nil _ _)
  have hclosed : k = takenIn (record ++ [.close (flow.pollClose s).1]) +
      withheldIn (record ++ [.close (flow.pollClose s).1]) := by
    rw [hwithheld, takenIn_append]
    exact htotal
  rcases hclose : flow.pollClose s with ⟨_ | _ | _, s'⟩ <;> rw [hclose] at hwithheld hclosed <;>
    simp only [Run.close, hclose]
  · exact ⟨hclosed, fun _ ↦ hwithheld⟩
  · exact .of_over rfl hclosed
  · exact .of_over rfl hclosed

variable [Resumes V S]

/-- Handing on a value leaves the count as it is. -/
theorem Tallies.deliver {run : Run V S} {record : List (FlowCall V ε)}
    (htallies : run.Tallies record) (value : Payload V) (chain : List S) :
    (Run.deliver (ε := ε) value chain run).2.Tallies record := by
  cases chain with
  | nil => exact htallies
  | cons step chain => exact ⟨htallies.total, htallies.held⟩

/-- Taking a task off the stack counts the submission that it makes, and goes on with it. -/
theorem Tallies.undertake {plan : Plan V S} {chain : List S} {rest : List (Task V S)} {k : ℕ}
    {record : List (FlowCall V ε)}
    (htallies : (⟨⟨plan, chain⟩ :: rest, none, k, false⟩ : Run V S).Tallies record) :
    let next := Run.undertake (ε := ε) ⟨⟨plan, chain⟩ :: rest, none, k, false⟩ chain rest plan
    next.2.Counted record ∧ (next.1 ≠ .again → next.2.Tallies record) := by
  have hkept : ∀ tasks, Tallies (⟨tasks, none, k, false⟩ : Run V S) record := fun _ ↦
    ⟨htallies.total, htallies.held⟩
  cases plan with
  | done value => exact ((hkept rest).deliver value chain).counted_and
  | empty | sequence | concat => exact (hkept _).counted_and
  | submit request =>
    obtain ⟨hwithheld, htotal⟩ := htallies.settled rfl rfl
    refine ⟨⟨fun _ ↦ ⟨?_, hwithheld.le.trans (Nat.zero_le _)⟩, fun hover ↦ ?_⟩, fun hagain ↦ ?_⟩
    · exact congrArg (· + 1) htotal
    · exact Bool.noConfusion hover
    · exact absurd rfl hagain
  | mistyped => exact Tallies.counted_and (.of_over rfl htallies.total)

/-- Driving the submission in flight tells whether the flow took it, which has been counted. -/
theorem Counted.drive {flight : Flight V S} {tasks : List (Task V S)} {k : ℕ}
    {record : List (FlowCall V ε)}
    (hcounted : (⟨tasks, some flight, k, false⟩ : Run V S).Counted record) (flow : Flow V σ ε)
    (s : σ) :
    (land flight ⟨tasks, some flight, k, false⟩ (flight.poll flow s).1).2.Tallies
      (record ++ flight.stage.calls flow s) := by
  obtain ⟨ticket, stage, chain⟩ := flight
  obtain ⟨hsubmitted, -⟩ := hcounted.goesOn rfl
  have haccounts := stage.accounts flow s
  have htotal : k = takenIn (record ++ stage.calls flow s) +
      withheldIn (record ++ stage.calls flow s) := by
    rw [takenIn_append, withheldIn_append _ haccounts.called, Nat.add_assoc, haccounts.handed]
    exact hsubmitted
  have hheld : ∀ held, (stage.poll flow s).1.held = some held →
      withheldIn (record ++ stage.calls flow s) = held := fun held hgoesOn ↦ by
    rw [withheldIn_append _ haccounts.called, haccounts.goesOn held hgoesOn]
  simp only [Flight.poll]
  rcases hpoll : stage.poll flow s with ⟨_ | _ | _ | reply, s'⟩ <;> rw [hpoll] at hheld
  · exact ⟨htotal, fun _ ↦ hheld _ rfl⟩
  · exact .of_over rfl htotal
  · exact .of_over rfl htotal
  · by_cases hticket : reply.ticket = ticket
    · have hlanded : Tallies (⟨tasks, none, k, false⟩ : Run V S)
          (record ++ stage.calls flow s) := ⟨htotal, fun _ ↦ hheld 0 rfl⟩
      simp only [hticket, if_true]
      rcases reply.answer with value | _ | cause
      · exact hlanded.deliver value chain
      · exact hlanded
      · exact hlanded
    · simp only [hticket, if_false]
      exact .of_over rfl htotal

/-- What one move does to the count; a move that ends its poll leaves nothing to be handed over but
what was asked about last. -/
theorem Counted.step {run : Run V S} {record : List (FlowCall V ε)} (hcounted : run.Counted record)
    (flow : Flow V σ ε) (s : σ) :
    (run.step flow s).1.2.Counted (record ++ run.calls flow s) ∧
      ((run.step flow s).1.1 ≠ .again →
        (run.step flow s).1.2.Tallies (record ++ run.calls flow s)) := by
  cases run using step_cases with
  | ended tasks flight k =>
    have hcalls : calls flow ⟨tasks, flight, k, true⟩ s = [] := by simp [calls, Run.step]
    rw [hcalls, List.append_nil]
    exact Tallies.counted_and (.of_over rfl (hcounted.isOver rfl))
  | closing k =>
    rw [calls_close]
    exact ((hcounted.tallies rfl).close flow s).counted_and
  | undertaking plan chain rest k =>
    have hcalls : calls flow ⟨⟨plan, chain⟩ :: rest, none, k, false⟩ s = [] := by
      simp [calls, Run.step]
    rw [hcalls, List.append_nil]
    exact (hcounted.tallies rfl).undertake
  | driving flight tasks k =>
    rw [calls_flight]
    exact (hcounted.drive flow s).counted_and

/-! ### Polls -/

variable {flow : Flow V σ ε} {stand stand' : Stand V S (σ × List (FlowCall V ε))}

/-- After a poll, what is yet to be handed over was asked about last. -/
theorem Tallies.returns {item : Poll (Option (Item V ε))}
    (htallies : stand.1.Tallies stand.2.2) (hreturns : Returns flow.recorded stand item stand') :
    stand'.1.Tallies stand'.2.2 := by
  refine Until.leads (P := fun stand ↦ stand.1.Counted stand.2.2)
    (Q := fun stand ↦ stand.1.Tallies stand.2.2) hreturns ?_ htallies.counted
  rintro ⟨run, s, record⟩ _ _ ⟨rfl, rfl⟩ hcounted
  obtain ⟨hnext, hends⟩ := hcounted.step flow s
  rw [outcomeAt, driven, Run.step_recorded]
  exact ⟨hnext, fun houtcome ↦ hends fun hagain ↦ houtcome (by simp [hagain, Turn.outcome?])⟩

theorem Tallies.returnsValue {outcome : Poll (Option (Payload V))}
    (htallies : stand.1.Tallies stand.2.2)
    (hreturns : ReturnsValue flow.recorded stand outcome stand') : stand'.1.Tallies stand'.2.2 :=
  Until.keeps (P := fun stand ↦ stand.1.Tallies stand.2.2) hreturns
    (fun hitem htallies ↦ htallies.returns hitem) htallies

/-- Between two polls, of the items or of the values, a run has counted the submissions that its
flow took, and one more where the last call was about a submission that the flow has not taken. This
is so wherever polls lead, and where the moves of a run come to an end, they are the polls of either
stream. -/
theorem submitted_between_polls (flow : Flow V σ ε) (plan : Plan V S) (s : σ) :
    (∀ outcomes stand, Row (Returns flow.recorded) (start plan, s, []) outcomes stand →
      stand.1.submitted = takenIn stand.2.2 + withheldIn stand.2.2) ∧
    (∀ outcomes stand, Row (ReturnsValue flow.recorded) (start plan, s, []) outcomes stand →
      stand.1.submitted = takenIn stand.2.2 + withheldIn stand.2.2) ∧
    ∀ (_ : Terminating V S) (n : ℕ),
      let items := (driven (pollNext flow.recorded))^[n] (start plan, s, [])
      let values := (driven (pollValue flow.recorded))^[n] (start plan, s, [])
      items.1.submitted = takenIn items.2.2 + withheldIn items.2.2 ∧
        values.1.submitted = takenIn values.2.2 + withheldIn values.2.2 := by
  let P : Stand V S (σ × List (FlowCall V ε)) → Prop := fun stand ↦ stand.1.Tallies stand.2.2
  have hitems : ∀ {outcomes stand},
      Row (Returns flow.recorded) (start plan, s, []) outcomes stand → P stand := fun hrow ↦
    hrow.keeps (fun hitem htallies ↦ Tallies.returns htallies hitem) (tallies_start plan)
  have hvalues : ∀ {outcomes stand},
      Row (ReturnsValue flow.recorded) (start plan, s, []) outcomes stand → P stand := fun hrow ↦
    hrow.keeps (fun hvalue htallies ↦ Tallies.returnsValue htallies hvalue) (tallies_start plan)
  refine ⟨fun _ _ hrow ↦ (hitems hrow).total, fun _ _ hrow ↦ (hvalues hrow).total, fun _ n ↦ ?_⟩
  obtain ⟨_, hrow⟩ := row_iterate (pollNext flow.recorded) (start plan, s, []) n
  obtain ⟨_, hrow'⟩ := row_iterate (pollValue flow.recorded) (start plan, s, []) n
  rw [← returns_eq] at hrow
  rw [← returnsValue_eq] at hrow'
  exact ⟨(hitems hrow).total, (hvalues hrow').total⟩

/-- A flow that is slow to get ready, and then refuses the second submission. -/
theorem submitted_between_polls_of_refusing :
    let service : TimedService values ℕ := fun _ _ n ↦ (.ok (.ok [n.toUInt8]), n + 1)
    let flow := EventLoop.flow service .caller .script
    let loop : EventLoop values ℕ := .start 5 fun call ↦
      if call = .ready then [.wait] else if call = .start then [.well, .fail "full"] else []
    let request : Request (Payload values) :=
      { route := ⟨.get, "a"⟩
        decode := fun response ↦ .ok (response.body.head?.map Carried.erase)
        label := "Get" }
    let plan : Erased values := .concat [.submit request, .submit request]
    let items := (driven (Run.pollNext flow.recorded))^[3] (start plan, loop, [])
    (∃ outcomes, Row (Returns flow.recorded) (start plan, loop, []) outcomes items) ∧
      Terminating values (Step values) ∧
      items.1.submitted = takenIn items.2.2 + withheldIn items.2.2 := by
  intro service flow loop request plan items
  obtain ⟨outcomes, hrow⟩ :=
    row_iterate (Run.pollNext flow.recorded) (start plan, loop, []) 3
  rw [← returns_eq] at hrow
  exact ⟨⟨outcomes, hrow⟩, terminating_step,
    (submitted_between_polls flow plan loop).1 outcomes items hrow⟩

/-- A run counts a submission that its flow was not ready for. -/
theorem submitted_untaken :
    let service : TimedService values ℕ := fun _ _ n ↦ (.ok (.ok [n.toUInt8]), n + 1)
    let flow := EventLoop.flow service .caller .script
    let loop : EventLoop values ℕ := .start 0 fun call ↦ if call = .ready then [.wait] else []
    let request : Request (Payload values) :=
      { route := ⟨.get, "a"⟩, decode := fun _ ↦ .ok none, label := "Get" }
    let plan : Erased values := .submit request
    let stand := driven (Run.pollNext flow.recorded) (start plan, loop, [])
    stand.1.submitted = 1 ∧ takenIn stand.2.2 = 0 := by
  intro service flow loop request plan stand
  have hstand : stand = driven (Run.pollNext flow.recorded) (start plan, loop, []) := rfl
  rw [driven, pollNext_of_step rfl, pollNext_of_step rfl] at hstand
  rw [hstand]
  decide +kernel

end Run

end Errand
