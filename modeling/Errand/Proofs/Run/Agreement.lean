import Errand.Proofs.Run.Termination

/-!
The values of a run are its items with the errors left out. `Run.Returns` says what a poll for an
item returns and where it leaves a run and its flow, `Run.ReturnsValue` the same for a poll for a
value, whatever the continuations do: a poll need not return at all. Where runs come to an end of
their moves, these are the polls themselves (`Run.returns_eq`, `Run.returnsValue_eq`).

A poll for an item makes moves until one of them ends it, a poll for a value polls for items until
one is not an error, so both are the same kind of loop (`Run.Until`), and a row of loops is a row
of what they are made of (`Run.row_until_iff`). So the two streams lead to the same places. A run is
over once an item is its end or an error that ends it (`Run.finished_of_returns`), and from then on
nothing moves (`Run.returns_iff_of_finished`). The main statement is `Run.values_leave_errors_out`.

A poll brings one thing and leads to one place, if it returns at all (`Run.returns_single`), and the
moves that it is made of are those of the history of a run (`Course.exists_iterate_of_returns`).
-/

set_option autoImplicit false

namespace Errand

variable {V : ValueTypes} {S σ ε τ τ' : Type}

/-- What a poll for a value returns where a poll for an item returns this. Errors are left out. -/
def Poll.passed? : Poll (Option (Item V ε)) → Option (Poll (Option (Payload V)))
  | .pending => some .pending
  | .ready none => some (.ready none)
  | .ready (some (.ok value)) => some (.ready (some value))
  | .ready (some (.error _)) => none

/-- The last item of a run: its end, or an error that ends it. -/
def Poll.isLast : Poll (Option (Item V ε)) → Bool
  | .ready none => true
  | .ready (some (.error e)) => e.isTerminal
  | .pending | .ready (some (.ok _)) => false

/-- The end of the values. -/
def Poll.isEnd : Poll (Option (Payload V)) → Bool
  | .ready none => true
  | .pending | .ready (some _) => false

theorem Poll.passed?_eq_none_iff {item : Poll (Option (Item V ε))} :
    item.passed? = none ↔ item.IsError := by
  rcases item with _ | _ | _ | _ <;> simp [passed?, IsError]

theorem Poll.passed?_of_eq_asItem {item : Poll (Option (Item V ε))}
    {outcome : Poll (Option (Payload V))} (hitem : item = outcome.asItem) :
    item.passed? = some outcome := by
  subst hitem
  rcases outcome with _ | _ | _ <;> rfl

theorem Poll.isEnd_iff {outcome : Poll (Option (Payload V))} :
    outcome.isEnd = true ↔ outcome = .ready none := by
  rcases outcome with _ | _ | _ <;> simp [isEnd]

namespace Run

/-! ### Loops that need not be left -/

/-- A run and its flow. -/
abbrev Stand (V : ValueTypes) (S σ : Type) := Run V S × σ

/-- What something done with a run and its flow brings, and where it leaves them. -/
abbrev Deed (V : ValueTypes) (S σ τ : Type) := Stand V S σ → τ → Stand V S σ → Prop

/-- What driving once brings. -/
def Drives (drive : Drive V S σ τ) : Deed V S σ τ := fun stand outcome stand' ↦
  outcomeAt drive stand = outcome ∧ driven drive stand = stand'

/-- Doing something until it brings something to return. -/
inductive Until (deed : Deed V S σ τ) (returns? : τ → Option τ') : Deed V S σ τ'
  | last {stand stand' : Stand V S σ} {outcome : τ} {returned : τ'}
    (hdeed : deed stand outcome stand') (hreturns : returns? outcome = some returned) :
    Until deed returns? stand returned stand'
  | again {stand stand' stand'' : Stand V S σ} {outcome : τ} {returned : τ'}
    (hdeed : deed stand outcome stand') (hreturns : returns? outcome = none)
    (hrest : Until deed returns? stand' returned stand'') :
    Until deed returns? stand returned stand''

/-- Doing something several times in a row. -/
inductive Row (deed : Deed V S σ τ) : Deed V S σ (List τ)
  | nil {stand : Stand V S σ} : Row deed stand [] stand
  | cons {stand stand' stand'' : Stand V S σ} {outcome : τ} {outcomes : List τ}
    (hdeed : deed stand outcome stand') (hrest : Row deed stand' outcomes stand'') :
    Row deed stand (outcome :: outcomes) stand''

section Loops

variable {deed : Deed V S σ τ} {returns? : τ → Option τ'} {stand stand' stand'' : Stand V S σ}

/-- A loop is a row of what it does, of which the last alone brings something to return. -/
theorem Until.row {returned : τ'} (huntil : Until deed returns? stand returned stand') :
    ∃ outcomes outcome, Row deed stand (outcomes ++ [outcome]) stand' ∧
      outcomes.filterMap returns? = [] ∧ returns? outcome = some returned := by
  induction huntil with
  | @last _ _ outcome _ hdeed hreturns => exact ⟨[], outcome, .cons hdeed .nil, rfl, hreturns⟩
  | @again _ _ _ first _ hdeed hreturns _ ih =>
    obtain ⟨outcomes, outcome, hrow, hnone, hsome⟩ := ih
    exact ⟨first :: outcomes, outcome, .cons hdeed hrow, by simpa [hreturns] using hnone, hsome⟩

theorem Row.append {outcomes more : List τ} (hfirst : Row deed stand outcomes stand')
    (hrest : Row deed stand' more stand'') : Row deed stand (outcomes ++ more) stand'' := by
  induction hfirst with
  | nil => exact hrest
  | cons hdeed _ ih => exact .cons hdeed (ih hrest)

/-- A row of loops is a row of what they do that does not stop within a loop, and what they return
is what this row brings to return. -/
theorem row_until_iff {returned : List τ'} :
    Row (Until deed returns?) stand returned stand' ↔
      ∃ outcomes, Row deed stand outcomes stand' ∧ outcomes.filterMap returns? = returned ∧
        ∀ outcome ∈ outcomes.getLast?, returns? outcome ≠ none := by
  constructor
  · intro hrow
    induction hrow with
    | nil => exact ⟨[], .nil, rfl, by simp⟩
    | cons huntil _ ih =>
      obtain ⟨before, outcome, hfirst, hnone, hsome⟩ := huntil.row
      obtain ⟨outcomes, hrest, hreturned, hlast⟩ := ih
      refine ⟨before ++ [outcome] ++ outcomes, hfirst.append hrest, ?_, ?_⟩
      · simp [hnone, hsome, hreturned]
      · rcases List.eq_nil_or_concat outcomes with rfl | ⟨_, _, rfl⟩
        · simp [hsome]
        · simpa [List.getLast?_cons] using hlast
  · rintro ⟨outcomes, hrow, rfl, hlast⟩
    induction hrow with
    | nil => exact .nil
    | @cons _ _ _ outcome outcomes hdeed _ ih =>
      have hmore : ∀ outcome ∈ outcomes.getLast?, returns? outcome ≠ none := by
        intro last hmem
        exact hlast last (by simp [List.getLast?_cons, Option.mem_def.mp hmem])
      rcases hreturns : returns? outcome with _ | returned
      · -- The loop goes on, so something follows that ends it.
        rw [List.filterMap_cons_none hreturns]
        generalize hrest : outcomes.filterMap returns? = rest at ih
        cases ih hmore with
        | nil =>
          rcases List.eq_nil_or_concat outcomes with rfl | ⟨before, last, rfl⟩
          · exact absurd hreturns (hlast outcome (by simp))
          · obtain ⟨returned, hreturned⟩ := Option.ne_none_iff_exists'.mp (hmore last (by simp))
            simp [hreturned] at hrest
        | cons huntil hrow => exact .cons (.again hdeed hreturns huntil) hrow
      · rw [List.filterMap_cons_some hreturns]
        exact .cons (.last hdeed hreturns) (ih hmore)

theorem Row.concat {outcome : τ} {outcomes : List τ} (hrow : Row deed stand outcomes stand')
    (hdeed : deed stand' outcome stand'') : Row deed stand (outcomes ++ [outcome]) stand'' :=
  hrow.append (.cons hdeed .nil)

/-- The last of a row. -/
theorem Row.exists_last {outcome : τ} {outcomes : List τ}
    (hrow : Row deed stand (outcomes ++ [outcome]) stand'') :
    ∃ stand', Row deed stand outcomes stand' ∧ deed stand' outcome stand'' := by
  induction outcomes generalizing stand with
  | nil =>
    cases hrow with
    | cons hdeed hrest =>
      cases hrest
      exact ⟨stand, .nil, hdeed⟩
  | cons first outcomes ih =>
    cases hrow with
    | cons hdeed hrest =>
      obtain ⟨stand', hrest, hlast⟩ := ih hrest
      exact ⟨stand', .cons hdeed hrest, hlast⟩

/-- Where whatever is done leads from such stands to such stands, so does doing it until something
is returned; and what is returned may come with more. -/
theorem Until.leads {P Q : Stand V S σ → Prop} {returned : τ'}
    (huntil : Until deed returns? stand returned stand')
    (hdeed : ∀ {stand outcome stand'}, deed stand outcome stand' → P stand →
      P stand' ∧ (returns? outcome ≠ none → Q stand'))
    (hstand : P stand) : Q stand' := by
  induction huntil with
  | last hlast hreturns => exact (hdeed hlast hstand).2 (by simp [hreturns])
  | again hfirst _ _ ih => exact ih (hdeed hfirst hstand).1

/-- What is kept by whatever is done is kept by a loop of it. -/
theorem Until.keeps {P : Stand V S σ → Prop} {returned : τ'}
    (huntil : Until deed returns? stand returned stand')
    (hdeed : ∀ {stand outcome stand'}, deed stand outcome stand' → P stand → P stand')
    (hstand : P stand) : P stand' :=
  huntil.leads (fun hdone h ↦ ⟨hdeed hdone h, fun _ ↦ hdeed hdone h⟩) hstand

/-- What is kept by whatever is done is kept by a row of it. -/
theorem Row.keeps {P : Stand V S σ → Prop} {outcomes : List τ}
    (hrow : Row deed stand outcomes stand')
    (hdeed : ∀ {stand outcome stand'}, deed stand outcome stand' → P stand → P stand')
    (hstand : P stand) : P stand' := by
  induction hrow with
  | nil => exact hstand
  | cons hfirst _ ih => exact ih (hdeed hfirst hstand)

/-- What is done brings one thing only, and leads to one place. -/
def Deed.Single (deed : Deed V S σ τ) : Prop :=
  ∀ ⦃stand outcome outcome' stand' stand''⦄, deed stand outcome stand' →
    deed stand outcome' stand'' → outcome = outcome' ∧ stand' = stand''

theorem Deed.Single.until (hsingle : deed.Single) : (Until deed returns?).Single := by
  intro stand returned returned' stand' stand'' huntil huntil'
  induction huntil with
  | last hdeed hreturns =>
    cases huntil' with
    | last hdeed' hreturns' =>
      obtain ⟨rfl, rfl⟩ := hsingle hdeed hdeed'
      exact ⟨Option.some.inj (hreturns.symm.trans hreturns'), rfl⟩
    | again hdeed' hreturns' =>
      obtain ⟨rfl, -⟩ := hsingle hdeed hdeed'
      cases hreturns.symm.trans hreturns'
  | again hdeed hreturns _ ih =>
    cases huntil' with
    | last hdeed' hreturns' =>
      obtain ⟨rfl, -⟩ := hsingle hdeed hdeed'
      cases hreturns.symm.trans hreturns'
    | again hdeed' _ hrest' =>
      obtain ⟨-, rfl⟩ := hsingle hdeed hdeed'
      exact ih hrest'

/-- Rows of the same length are the same. -/
theorem Deed.Single.row (hsingle : deed.Single) {outcomes outcomes' : List τ}
    (hrow : Row deed stand outcomes stand') (hrow' : Row deed stand outcomes' stand'')
    (hlength : outcomes.length = outcomes'.length) : outcomes = outcomes' ∧ stand' = stand'' := by
  induction hrow generalizing outcomes' with
  | nil =>
    cases hrow' with
    | nil => exact ⟨rfl, rfl⟩
    | cons => cases hlength
  | cons hdeed _ ih =>
    cases hrow' with
    | nil => cases hlength
    | cons hdeed' hrest' =>
      obtain ⟨rfl, rfl⟩ := hsingle hdeed hdeed'
      obtain ⟨rfl, rfl⟩ := ih hrest' (Nat.succ.inj hlength)
      exact ⟨rfl, rfl⟩

variable {inner : Drive V S σ τ} {outer : Drive V S σ τ'}

theorem drives_single (drive : Drive V S σ τ) : (Drives drive).Single := by
  rintro _ _ _ _ _ ⟨rfl, rfl⟩ ⟨rfl, rfl⟩
  exact ⟨rfl, rfl⟩

/-- Driving several times is a row. -/
theorem row_iterate (drive : Drive V S σ τ) (stand : Stand V S σ) (n : ℕ) :
    ∃ outcomes, Row (Drives drive) stand outcomes ((driven drive)^[n] stand) := by
  induction n generalizing stand with
  | zero => exact ⟨[], .nil⟩
  | succ n ih =>
    obtain ⟨outcomes, hrest⟩ := ih (driven drive stand)
    exact ⟨_, .cons ⟨rfl, rfl⟩ hrest⟩

/-- A loop that is left brings what it is known to bring. -/
theorem Loops.until {goesOn : τ → Prop} {brings : τ → τ' → Prop} {run : Run V S} {s : σ}
    (hloops : Loops inner goesOn outer brings run s)
    (hgoesOn : ∀ outcome, goesOn outcome → returns? outcome = none)
    (hbrings : ∀ outcome returned, brings outcome returned → returns? outcome = some returned) :
    Until (Drives inner) returns? (run, s) (outcomeAt outer (run, s)) (driven outer (run, s)) := by
  obtain ⟨n, hmany, hlast, hdriven⟩ := hloops
  rw [← hdriven]
  clear hdriven
  replace hlast := hbrings _ _ hlast
  generalize (run, s) = stand, outcomeAt outer (run, s) = returned at hmany hlast ⊢
  induction n generalizing stand with
  | zero => exact .last ⟨rfl, rfl⟩ hlast
  | succ n ih =>
    have hfirst := hgoesOn _ (hmany 0 n.succ_pos)
    refine .again ⟨rfl, rfl⟩ hfirst (ih (driven inner stand) (fun i hi ↦ ?_) hlast)
    exact hmany (i + 1) (Nat.succ_lt_succ hi)

/-- Where what is done brings one thing and moves nothing, a loop returns that. -/
theorem until_iff_of_still {outcome : τ} {returned : τ'}
    (hstill : ∀ other stand', deed stand other stand' ↔ other = outcome ∧ stand' = stand)
    (hreturns : returns? outcome = some returned) (other : τ') (stand' : Stand V S σ) :
    Until deed returns? stand other stand' ↔ other = returned ∧ stand' = stand := by
  constructor
  · intro huntil
    cases huntil with
    | last hdeed hother =>
      obtain ⟨rfl, rfl⟩ := (hstill _ _).mp hdeed
      exact ⟨Option.some.inj (hother.symm.trans hreturns), rfl⟩
    | again hdeed hnone =>
      obtain ⟨rfl, -⟩ := (hstill _ _).mp hdeed
      cases hnone.symm.trans hreturns
  · rintro ⟨rfl, rfl⟩
    exact .last ((hstill _ _).mpr ⟨rfl, rfl⟩) hreturns

/-- If a run is over after what brings a last outcome, and nothing moves from then on, then it is
over after a row in which there is a last outcome. -/
theorem Row.finished_iff {isLast : τ → Bool} {outcomes : List τ}
    (hrow : Row deed stand outcomes stand')
    (hover : ∀ {stand outcome stand'}, deed stand outcome stand' → stand.1.finished = false →
      stand'.1.finished = isLast outcome)
    (hstill : ∀ {stand outcome stand'}, deed stand outcome stand' → stand.1.finished = true →
      stand' = stand) :
    stand'.1.finished = true ↔
      stand.1.finished = true ∨ ∃ outcome ∈ outcomes, isLast outcome = true := by
  induction hrow with
  | nil => simp
  | @cons stand _ _ outcome outcomes hdeed hrest ih =>
    rw [ih]
    cases hfinished : stand.1.finished with
    | false => simp [hover hdeed hfinished]
    | true => simp [hstill hdeed hfinished, hfinished]

end Loops

/-! ### Polls -/

section Polls

variable [Resumes V S]

/-- A poll for an item makes moves until one of them ends it. -/
def Returns (flow : Flow V σ ε) : Deed V S σ (Poll (Option (Item V ε))) :=
  Until (Drives (step flow)) Turn.outcome?

/-- A poll for a value polls for items until one of them is not an error. -/
def ReturnsValue (flow : Flow V σ ε) : Deed V S σ (Poll (Option (Payload V))) :=
  Until (Returns flow) Poll.passed?

variable {flow : Flow V σ ε} {stand stand' : Stand V S σ}

theorem returns_single (flow : Flow V σ ε) : (Returns (S := S) flow).Single :=
  (drives_single _).until

theorem returnsValue_single (flow : Flow V σ ε) : (ReturnsValue (S := S) flow).Single :=
  (returns_single flow).until

section Functions

variable [Terminating V S]

theorem returns_eq (flow : Flow V σ ε) :
    Returns (S := S) flow = Drives (pollNext flow) := by
  have hreturns : ∀ stand : Stand V S σ, Returns flow stand (outcomeAt (pollNext flow) stand)
      (driven (pollNext flow) stand) := fun stand ↦
    (pollNext_loops flow stand.1 stand.2).until (by rintro _ rfl; rfl) fun _ _ h ↦ h
  funext stand item stand'
  refine propext ⟨fun h ↦ returns_single flow (hreturns stand) h, ?_⟩
  rintro ⟨rfl, rfl⟩
  exact hreturns stand

theorem returnsValue_eq (flow : Flow V σ ε) :
    ReturnsValue (S := S) flow = Drives (pollValue flow) := by
  have hreturns : ∀ stand : Stand V S σ, Until (Drives (pollNext flow)) Poll.passed? stand
      (outcomeAt (pollValue flow) stand) (driven (pollValue flow) stand) := fun stand ↦
    (pollValue_loops flow stand.1 stand.2).until (fun _ ↦ Poll.passed?_eq_none_iff.mpr)
      fun _ _ ↦ Poll.passed?_of_eq_asItem
  funext stand outcome stand'
  rw [ReturnsValue, returns_eq]
  refine propext ⟨fun h ↦ (drives_single _).until (hreturns stand) h, ?_⟩
  rintro ⟨rfl, rfl⟩
  exact hreturns stand

end Functions

/-! ### Ends -/

theorem deliver_finished (value : Payload V) (chain : List S) (run : Run V S) :
    (deliver (ε := ε) value chain run).2.finished = run.finished ∧
      (deliver (ε := ε) value chain run).1.outcome?.any Poll.isLast = false := by
  cases chain <;> exact ⟨rfl, rfl⟩

omit [Resumes V S] in
/-- Where driving the submission in flight fails, the run cannot go on. -/
theorem isTerminal_of_failed {flight : Flight V S} {s : σ} {error : RunError ε}
    (hfailed : (flight.poll flow s).1 = .failed error) : error.isTerminal = true := by
  rcases hstage : flight.stage.poll flow s with ⟨_ | _ | _ | reply, s'⟩
  · simp [Flight.poll, hstage] at hfailed
  · simp [Flight.poll, hstage] at hfailed
    exact hfailed ▸ rfl
  · simp [Flight.poll, hstage] at hfailed
    exact hfailed ▸ rfl
  · by_cases hticket : reply.ticket = flight.ticket <;>
      simp [Flight.poll, hstage, hticket] at hfailed
    exact hfailed ▸ rfl

/-- A move ends a run when it brings the last item. -/
theorem finished_step (flow : Flow V σ ε) {run : Run V S} (s : σ) (hrun : run.finished = false) :
    (run.step flow s).1.2.finished = (run.step flow s).1.1.outcome?.any Poll.isLast := by
  cases run using step_cases with
  | ended => cases hrun
  | closing =>
    rcases hclose : flow.pollClose s with ⟨_ | _ | _, s'⟩ <;>
      simp [step, close, hclose, finish, Turn.outcome?, Poll.isLast, RunError.isTerminal]
  | undertaking plan chain rest k =>
    cases plan with
    | done value =>
      obtain ⟨hfinished, hlast⟩ :=
        deliver_finished (ε := ε) value chain ⟨rest, none, k, false⟩
      simp [step, undertake, hfinished, hlast]
    | _ => simp [step, undertake, finish, Turn.outcome?, Poll.isLast, RunError.isTerminal]
  | driving flight tasks k =>
    rcases hpoll : flight.poll flow s with ⟨_ | error | answer, s'⟩
    · simp [step, hpoll, land, Turn.outcome?, Poll.isLast]
    · have hterminal := isTerminal_of_failed (congrArg Prod.fst hpoll)
      simp [step, hpoll, land, finish, Turn.outcome?, Poll.isLast, hterminal]
    · cases answer with
      | success value =>
        obtain ⟨hfinished, hlast⟩ :=
          deliver_finished (ε := ε) value flight.chain ⟨tasks, none, k, false⟩
        simp [step, hpoll, land, hfinished, hlast]
      | filtered => simp [step, hpoll, land, Turn.outcome?]
      | failure cause =>
        simp [step, hpoll, land, Turn.outcome?, Poll.isLast, RunError.isTerminal]

/-- A run that is over brings its end, and stays as it is. -/
theorem drives_step_iff (flow : Flow V σ ε) (hstand : stand.1.finished = true) (turn : Turn V ε)
    (stand' : Stand V S σ) :
    Drives (step flow) stand turn stand' ↔ turn = .item none ∧ stand' = stand := by
  simp [Drives, outcomeAt, driven, step, hstand, eq_comm]

theorem returns_iff_of_finished (flow : Flow V σ ε) (hstand : stand.1.finished = true)
    (item : Poll (Option (Item V ε))) (stand' : Stand V S σ) :
    Returns flow stand item stand' ↔ item = .ready none ∧ stand' = stand := by
  have hreturns : (Turn.item none : Turn V ε).outcome? = some (.ready none) := rfl
  exact until_iff_of_still (drives_step_iff flow hstand) hreturns item stand'

theorem returnsValue_iff_of_finished (flow : Flow V σ ε) (hstand : stand.1.finished = true)
    (outcome : Poll (Option (Payload V))) (stand' : Stand V S σ) :
    ReturnsValue flow stand outcome stand' ↔ outcome = .ready none ∧ stand' = stand := by
  have hpassed : (Poll.ready none : Poll (Option (Item V ε))).passed? = some (.ready none) := rfl
  exact until_iff_of_still (returns_iff_of_finished flow hstand) hpassed outcome stand'

/-- A poll for an item ends a run when it brings the last item. -/
theorem finished_of_returns {item : Poll (Option (Item V ε))}
    (hreturns : Returns flow stand item stand') (hstand : stand.1.finished = false) :
    stand'.1.finished = item.isLast := by
  have hstep : ∀ {stand stand' : Stand V S σ} {turn : Turn V ε}, stand.1.finished = false →
      Drives (step flow) stand turn stand' →
        stand'.1.finished = turn.outcome?.any Poll.isLast := by
    rintro stand _ _ hrunning ⟨rfl, rfl⟩
    exact finished_step flow stand.2 hrunning
  rw [Returns] at hreturns
  induction hreturns with
  | last hdeed hitem => rw [hstep hstand hdeed, hitem, Option.any_some]
  | again hdeed hnone _ ih => exact ih (by rw [hstep hstand hdeed, hnone, Option.any_none])

/-- A poll for a value ends a run when it brings the end. -/
theorem finished_of_returnsValue {outcome : Poll (Option (Payload V))}
    (hreturns : ReturnsValue flow stand outcome stand') (hstand : stand.1.finished = false) :
    stand'.1.finished = outcome.isEnd := by
  rw [ReturnsValue] at hreturns
  induction hreturns with
  | @last _ _ item _ hitem hpassed =>
    rw [finished_of_returns hitem hstand]
    rcases item with _ | _ | _ | _ <;> cases hpassed <;> rfl
  | @again stand mid _ item _ hitem _ hrest ih =>
    cases hfinished : mid.1.finished with
    | false => exact ih hfinished
    | true =>
      -- The error that was passed over was the last item, and what follows is the end.
      obtain ⟨rfl, rfl⟩ := (returnsValue_iff_of_finished flow hfinished _ _).mp hrest
      exact hfinished

/-- The values of a run are its items with the errors left out: polls for values lead to the same
places as polls for items that do not stop at an error, over the same calls of the flow. A run of
items is over once its end or an error that ends it was there, a run of values once its end was.
From then on every poll brings the end, and nothing moves. Where the moves of a run come to an end,
this is what the polls of either stream return. -/
theorem values_leave_errors_out (flow : Flow V σ ε) (plan : Plan V S) (s : σ) :
    let items := Row (Returns flow.recorded) (start plan, s, [])
    let values := Row (ReturnsValue flow.recorded) (start plan, s, [])
    (∀ returned stand, values returned stand ↔
      ∃ outcomes, items outcomes stand ∧ outcomes.filterMap Poll.passed? = returned ∧
        ∀ last ∈ outcomes.getLast?, ¬last.IsError) ∧
    (∀ outcomes stand, items outcomes stand →
      (stand.1.finished = true ↔ ∃ item ∈ outcomes, item.isLast = true)) ∧
    (∀ returned stand, values returned stand →
      (stand.1.finished = true ↔ .ready none ∈ returned)) ∧
    (∀ stand stand' : Stand V S (σ × List (FlowCall V ε)), stand.1.finished = true →
      (∀ item, Returns flow.recorded stand item stand' ↔ item = .ready none ∧ stand' = stand) ∧
      ∀ outcome, ReturnsValue flow.recorded stand outcome stand' ↔
        outcome = .ready none ∧ stand' = stand) ∧
    ∀ _ : Terminating V S, Returns (S := S) flow.recorded = Drives (pollNext flow.recorded) ∧
      ReturnsValue (S := S) flow.recorded = Drives (pollValue flow.recorded) := by
  intro items values
  refine ⟨fun returned stand ↦ ?agreement, fun outcomes stand hitems ↦ ?items,
    fun returned stand hvalues ↦ ?values, fun stand stand' hstand ↦ ⟨?_, ?_⟩,
    fun _ ↦ ⟨returns_eq _, returnsValue_eq _⟩⟩
  case agreement =>
    simp only [← Poll.passed?_eq_none_iff]
    exact row_until_iff
  case items =>
    refine (hitems.finished_iff finished_of_returns fun hdeed hfinished ↦ ?_).trans ?_
    · exact ((returns_iff_of_finished _ hfinished _ _).mp hdeed).2
    · simp [start]
  case values =>
    refine (hvalues.finished_iff finished_of_returnsValue fun hdeed hfinished ↦ ?_).trans ?_
    · exact ((returnsValue_iff_of_finished _ hfinished _ _).mp hdeed).2
    · simp [start, Poll.isEnd_iff]
  · exact fun item ↦ returns_iff_of_finished _ hstand item stand'
  · exact fun outcome ↦ returnsValue_iff_of_finished _ hstand outcome stand'

end Polls

end Run

/-! ### Polls are moves -/

theorem Turn.returned_eq (turn : Turn V ε) :
    turn.returned = (turn.outcome?.map (Happening.returned (S := S))).toList := by
  cases turn <;> rfl

namespace Course

variable [Resumes V S] {flow : Flow V σ ε}
  {stand stand' : Run.Stand V S (σ × List (FlowCall V ε))}

/-- A move over a flow that keeps a record, as a move that keeps the history. -/
theorem next_of_drives {turn : Turn V ε}
    (hdrives : Run.Drives (Run.step flow.recorded) stand turn stand')
    (h : List (Happening V S ε)) :
    next flow ⟨stand.1, stand.2.1, h⟩ = ⟨stand'.1, stand'.2.1,
        h ++ (stand.1.deeds flow stand.2.1 ++ turn.returned)⟩ ∧
      stand'.2.2 = stand.2.2 ++ callsIn (stand.1.deeds flow stand.2.1) := by
  obtain ⟨run, s, record⟩ := stand
  obtain ⟨rfl, rfl⟩ := hdrives
  rw [Run.callsIn_deeds]
  simp [next_eq, Run.outcomeAt, Run.driven, Run.step_recorded, Run.deeds]

/-- A poll that returns is some moves, of which the last alone returns, and it returns what the poll
does. The calls made on the way are those that are recorded. -/
theorem exists_iterate_of_returns {item : Poll (Option (Item V ε))}
    (hreturns : Run.Returns flow.recorded stand item stand') (h : List (Happening V S ε)) :
    ∃ n news, (next flow)^[n + 1] ⟨stand.1, stand.2.1, h⟩ =
        ⟨stand'.1, stand'.2.1, h ++ (news ++ [.returned item])⟩ ∧
      (∀ outcome, .returned outcome ∉ news) ∧ stand'.2.2 = stand.2.2 ++ callsIn news := by
  rw [Run.Returns] at hreturns
  induction hreturns generalizing h with
  | @last stand stand' turn item hdrives hitem =>
    obtain ⟨hnext, hcalls⟩ := next_of_drives hdrives h
    refine ⟨0, stand.1.deeds flow stand.2.1, ?_, stand.1.returned_notMem_deeds flow _, hcalls⟩
    rw [Function.iterate_one, hnext, turn.returned_eq, hitem]
    rfl
  | @again stand mid stand' turn item hdrives hitem _ ih =>
    obtain ⟨hnext, hcalls⟩ := next_of_drives hdrives h
    obtain ⟨n, news, hmoves, hnews, hmore⟩ :=
      ih (h ++ (stand.1.deeds flow stand.2.1 ++ turn.returned))
    refine ⟨n + 1, stand.1.deeds flow stand.2.1 ++ news, ?_, ?_, ?_⟩
    · rw [Function.iterate_succ_apply, hnext, hmoves, turn.returned_eq, hitem]
      simp
    · simpa [Run.returned_notMem_deeds] using hnews
    · rw [hmore, hcalls, callsIn_append, List.append_assoc]

end Course

namespace Run

/-- A flow that keeps its caller waiting, rejects a submission, and then breaks down. -/
theorem values_leave_errors_out_of_breaking :
    let replies : List (Poll (Except String (Reply values))) :=
      [.pending, .ready (.ok ⟨⟨0⟩, .failure (.dropped "late")⟩)]
    let flow : Flow values ℕ String :=
      { pollReady := fun n ↦ (.ready (.ok ()), n)
        startDispatch := fun _ n ↦ (.ok (), n)
        pollFlush := fun n ↦ (.ready (.ok ()), n)
        pollClose := fun n ↦ (.ready (.ok ()), n)
        pollReply := fun n ↦ (replies.getD n (.ready (.error "gone")), n + 1) }
    let request : Request (Payload values) :=
      { route := ⟨.get, "a"⟩, decode := fun _ ↦ .ok none, label := "Get" }
    let plan : Erased values := .concat [.submit request, .submit request]
    ∃ stand, Row (ReturnsValue flow.recorded) (start plan, 0, [])
        [.pending, .ready none] stand ∧ stand.1.finished = true ∧
      ∀ outcome stand', ReturnsValue flow.recorded stand outcome stand' →
        outcome = .ready none ∧ stand' = stand := by
  intro replies flow request plan
  obtain ⟨hagreement, -, hvalues, hover, -⟩ := values_leave_errors_out flow plan 0
  have hitems : ∃ stand, Row (Returns flow.recorded) (start plan, 0, [])
      [.pending, .ready (some (.error (.rejected ⟨0⟩ (.dropped "late")))),
        .ready (some (.error (.collect "gone"))), .ready none] stand :=
    ⟨_, .cons (.again ⟨rfl, rfl⟩ rfl (.again ⟨rfl, rfl⟩ rfl (.last ⟨rfl, rfl⟩ rfl)))
      (.cons (.last ⟨rfl, rfl⟩ rfl) (.cons (.again ⟨rfl, rfl⟩ rfl (.last ⟨rfl, rfl⟩ rfl))
        (.cons (.last ⟨rfl, rfl⟩ rfl) .nil)))⟩
  obtain ⟨stand, hitems⟩ := hitems
  have hlast : ∀ last ∈ some (Poll.ready (none : Option (Item values String))), ¬last.IsError := by
    simp [Poll.IsError]
  have hrow : Row (ReturnsValue flow.recorded) (start plan, 0, [])
      [.pending, .ready none] stand :=
    (hagreement _ stand).mpr ⟨_, hitems, rfl, hlast⟩
  have hfinished := (hvalues _ stand hrow).mpr (by simp)
  exact ⟨stand, hrow, hfinished, fun outcome stand' ↦
    ((hover stand stand' hfinished).2 outcome).mp⟩

end Run

end Errand
