import Errand.Executor
import Errand.Proofs.Loopback.Line
import Errand.Values

/-!
Runs over one loopback executor do not meet. A house is an event loop with the guests that opened a
line on it, each with a run of its own; they open lines, poll and leave in any order (`Act`). A poll
need not return, so acts lead from house to house only where they come to something (`House.Turns`,
`House.Leads`). The service may be used by all of them, so its answers must depend on the submission
alone.

A guest fares as over a line by itself (`Guest.Fares`), whatever the others do (`House.InOrder`,
`House.InOrder.leads`). So every guest fares as one who is alone in a house, and its polls return
if those of one who is alone do. Its tickets count up from zero, the replies it gets are those to
its own submissions, and the journal mixes the submissions of the guests, each in its order
(`guests_fare_alone`).
-/

set_option autoImplicit false

namespace Errand

variable {V : ValueTypes} {S ω σ : Type}

namespace Loopback

/-! ### Guests -/

/-- One who has a run: whether errors are asked for as items, the calls made on the flow, and what
the polls have returned. -/
@[ext]
structure Guest (V : ValueTypes) (S : Type) where
  run : Run V S
  withErrors : Bool
  calls : List (FlowCall V FlowError)
  outcomes : List (Poll (Option (Item V FlowError)))

namespace Guest

def start (plan : Plan V S) (withErrors : Bool) : Guest V S := ⟨.start plan, withErrors, [], []⟩

variable [Resumes V S]

/-- Asks a run for its next item, or passes over errors. -/
def Asks (flow : Flow V σ FlowError) : Bool → Run.Deed V S σ (Poll (Option (Item V FlowError)))
  | true => Run.Returns flow
  | false => fun stand item stand' ↦
    ∃ outcome, Run.ReturnsValue flow stand outcome stand' ∧ outcome.asItem = item

/-- The stream of a guest is polled once, and returns. -/
inductive Polls (flow : Flow V σ FlowError) : Guest V S × σ → Guest V S × σ → Prop
  | returns {guest : Guest V S} {s s' : σ} {item : Poll (Option (Item V FlowError))}
    {run : Run V S} {calls : List (FlowCall V FlowError)}
    (hasks : Asks flow.recorded guest.withErrors (guest.run, s, guest.calls) item
      (run, s', calls)) :
    Polls flow (guest, s) ({ guest with run, calls, outcomes := guest.outcomes ++ [item] }, s')

end Guest

/-! ### Houses -/

/-- A guest, where its flow is, and whether it has dropped its stream. -/
structure Seat (V : ValueTypes) (S : Type) where
  guest : Guest V S
  dock : Dock
  left : Bool

/-- An event loop and those who have opened a flow of its loopback executor. -/
structure House (V : ValueTypes) (S ω : Type) where
  loop : EventLoop V ω
  seats : List (Seat V S)

/-- What may happen in a house. -/
inductive Act (V : ValueTypes) (S : Type) where
  /-- Someone opens a flow to run a plan, and asks for errors as items or not. -/
  | enter (plan : Plan V S) (withErrors : Bool)
  | poll (k : ℕ)
  /-- A stream is dropped along with its flow. -/
  | leave (k : ℕ)

namespace House

variable [Resumes V S]

/-- What comes of an act, if it comes to something: a poll need not return. One who has left is not
polled. -/
inductive Turns (service : TimedService V ω) : House V S ω → Act V S → House V S ω → Prop
  | enter {house : House V S ω} {dock : Dock} {loop : EventLoop V ω} (plan : Plan V S)
    (withErrors : Bool) (hopen : Executor.loopback.openFlow house.loop = .ok (dock, loop)) :
    Turns service house (.enter plan withErrors)
      ⟨loop, house.seats ++ [⟨.start plan withErrors, dock, false⟩]⟩
  | poll {house : House V S ω} {k : ℕ} {seat : Seat V S} {guest : Guest V S} {loop : EventLoop V ω}
    (hseat : house.seats[k]? = some seat) (hleft : seat.left = false)
    (hpolls : Guest.Polls (EventLoop.flow service .caller seat.dock) (seat.guest, house.loop)
      (guest, loop)) :
    Turns service house (.poll k) ⟨loop, house.seats.set k { seat with guest }⟩
  | idle {house : House V S ω} {k : ℕ}
    (hleft : ∀ seat, house.seats[k]? = some seat → seat.left = true) :
    Turns service house (.poll k) house
  | leave {house : House V S ω} {k : ℕ} {seat : Seat V S} (hseat : house.seats[k]? = some seat) :
    Turns service house (.leave k)
      ⟨(house.loop.dropSending seat.dock).dropCollecting seat.dock,
        house.seats.set k { seat with left := true }⟩
  | absent {house : House V S ω} {k : ℕ} (hseat : house.seats[k]? = none) :
    Turns service house (.leave k) house

/-- Acts lead from one house to another. -/
inductive Leads (service : TimedService V ω) : House V S ω → List (Act V S) → House V S ω → Prop
  | nil {house : House V S ω} : Leads service house [] house
  | cons {house house' house'' : House V S ω} {act : Act V S} {acts : List (Act V S)}
    (hturns : Turns service house act house') (hrest : Leads service house' acts house'') :
    Leads service house (act :: acts) house''

/-- The house after so many acts, nobody being there at first. -/
def After (service : TimedService V ω) (loop : EventLoop V ω) (acts : List (Act V S))
    (house : House V S ω) : Prop :=
  Leads service ⟨loop, []⟩ acts house

/-- A house with one guest, who has been polling so often. -/
def Alone (service : TimedService V ω) (loop : EventLoop V ω) (plan : Plan V S)
    (withErrors : Bool) (polls : ℕ) (house : House V S ω) : Prop :=
  After service loop (.enter plan withErrors :: List.replicate polls (.poll 0)) house

end House

/-- The guests that enter, in order. -/
def entering (acts : List (Act V S)) : List (Plan V S × Bool) :=
  acts.filterMap fun
    | .enter plan withErrors => some (plan, withErrors)
    | _ => none

/-! ### What guests do -/

namespace Guest

variable [Resumes V S] {σ' : Type} {flow : Flow V σ FlowError} {flow' : Flow V σ' FlowError}
  {withErrors : Bool}

theorem asks_single (flow : Flow V σ FlowError) (withErrors : Bool) :
    (Asks (S := S) flow withErrors).Single := by
  cases withErrors with
  | true => exact Run.returns_single flow
  | false =>
    rintro _ _ _ _ _ ⟨_, hasks, rfl⟩ ⟨_, hasks', rfl⟩
    obtain ⟨rfl, rfl⟩ := Run.returnsValue_single flow hasks hasks'
    exact ⟨rfl, rfl⟩

theorem asks_follows {alike : σ → σ' → Prop} (hmirrors : flow.Mirrors flow' alike)
    (withErrors : Bool) :
    Run.Deed.Follows alike (Asks (S := S) flow withErrors) (Asks flow' withErrors) := by
  cases withErrors with
  | true => exact hmirrors.returns
  | false =>
    rintro _ _ _ ⟨outcome, hasks, rfl⟩ s' hs
    obtain ⟨t', hasks', ht⟩ := hmirrors.returnsValue hasks hs
    exact ⟨t', ⟨outcome, hasks', rfl⟩, ht⟩

/-- Guests fare alike over flows that mirror each other. -/
theorem Polls.follows {alike : σ → σ' → Prop} (hmirrors : flow.Mirrors flow' alike)
    {guest guest' : Guest V S} {s t : σ} {s' : σ'} (hpolls : Polls flow (guest, s) (guest', t))
    (hs : alike s s') : ∃ t', Polls flow' (guest, s') (guest', t') ∧ alike t t' := by
  cases hpolls with
  | @returns _ _ _ item run calls hasks =>
    have hfollows := asks_follows (S := S) hmirrors.recorded guest.withErrors hasks
    obtain ⟨⟨t', calls'⟩, hasks', ht, hcalls⟩ := @hfollows (s', guest.calls) ⟨hs, rfl⟩
    obtain rfl : calls = calls' := hcalls
    exact ⟨t', .returns hasks', ht⟩

/-- What every call keeps true of a flow, asking a run does. -/
theorem asks_preserves {such : σ → Prop} (hflow : flow.Preserves such)
    {stand stand' : Run.Stand V S σ} {item : Poll (Option (Item V FlowError))}
    (hasks : Asks flow withErrors stand item stand') (hstand : such stand.2) : such stand'.2 := by
  cases withErrors with
  | true => exact hflow.returns hasks hstand
  | false =>
    obtain ⟨_, hasks, -⟩ := hasks
    exact hflow.returnsValue hasks hstand

theorem Polls.length_outcomes {guest guest' : Guest V S} {s s' : σ}
    (hpolls : Polls flow (guest, s) (guest', s')) :
    guest'.outcomes.length = guest.outcomes.length + 1 := by
  cases hpolls with
  | returns hasks => simp

theorem Polls.unique {guest guest' guest'' : Guest V S} {s s' s'' : σ}
    (hpolls : Polls flow (guest, s) (guest', s')) (hpolls' : Polls flow (guest, s) (guest'', s'')) :
    guest' = guest'' ∧ s' = s'' := by
  cases hpolls with
  | returns hasks =>
    cases hpolls' with
    | returns hasks' =>
      obtain ⟨rfl, hstand⟩ := asks_single _ _ hasks hasks'
      cases hstand
      exact ⟨rfl, rfl⟩

/-- Where the moves of runs come to an end, every poll returns. -/
theorem exists_polls [Terminating V S] (flow : Flow V σ FlowError) (guest : Guest V S) (s : σ) :
    ∃ guest' s', Polls flow (guest, s) (guest', s') := by
  obtain ⟨item, ⟨run, s', calls⟩, hasks⟩ : ∃ item stand,
      Asks flow.recorded guest.withErrors (guest.run, s, guest.calls) item stand := by
    cases guest.withErrors with
    | true =>
      rw [Asks, Run.returns_eq]
      exact ⟨_, _, rfl, rfl⟩
    | false =>
      rw [Asks, Run.returnsValue_eq]
      exact ⟨_, _, _, ⟨rfl, rfl⟩, rfl⟩
  exact ⟨_, _, .returns hasks⟩

/-- What every call keeps true of a flow and its record, a guest does. -/
theorem Polls.preserves {such : σ × List (FlowCall V FlowError) → Prop}
    (hflow : flow.recorded.Preserves such) {guest guest' : Guest V S} {s s' : σ}
    (hpolls : Polls flow (guest, s) (guest', s')) (hs : such (s, guest.calls)) :
    such (s', guest'.calls) := by
  cases hpolls with
  | returns hasks => exact asks_preserves hflow hasks hs

/-- A run and its flow have come about by moves, which made the calls recorded. -/
def Reached (flow : Flow V σ FlowError) (plan : Plan V S) (s₀ : σ)
    (stand : Run V S × σ × List (FlowCall V FlowError)) : Prop :=
  ∃ n h, Course.after flow plan s₀ n = ⟨stand.1, stand.2.1, h⟩ ∧ callsIn h = stand.2.2

variable {plan : Plan V S} {s₀ : σ} {stand stand' : Run V S × σ × List (FlowCall V FlowError)}
  {item : Poll (Option (Item V FlowError))}

theorem Reached.returns (hreached : Reached flow plan s₀ stand)
    (hreturns : Run.Returns flow.recorded stand item stand') : Reached flow plan s₀ stand' := by
  obtain ⟨n, h, hafter, hcalls⟩ := hreached
  obtain ⟨more, news, hmoves, -, hmade⟩ := Course.exists_iterate_of_returns hreturns h
  refine ⟨n + (more + 1), h ++ (news ++ [.returned item]), ?_, ?_⟩
  · rw [Course.after_add, hafter, hmoves]
  · have hreturned : callsIn [Happening.returned (S := S) item] = [] := rfl
    rw [callsIn_append, callsIn_append, hreturned, List.append_nil, hcalls, hmade]

theorem Reached.asks (hreached : Reached flow plan s₀ stand)
    (hasks : Asks flow.recorded withErrors stand item stand') : Reached flow plan s₀ stand' := by
  cases withErrors with
  | true => exact hreached.returns hasks
  | false =>
    obtain ⟨_, hasks, -⟩ := hasks
    exact Run.Until.keeps hasks (fun hitem h ↦ Reached.returns h hitem) hreached

end Guest

/-! ### Guests of a line by itself -/

namespace Guest

variable [Resumes V S] {responder : Submission V → Except Failure Response} {plan : Plan V S}
  {withErrors : Bool} {guest guest' : Guest V S} {line line' : Line V}

/-- A guest who runs the plan over a line by itself may have come to this, and the line to that. -/
structure Fares (responder : Submission V → Except Failure Response) (plan : Plan V S)
    (withErrors : Bool) (guest : Guest V S) (line : Line V) : Prop where
  withErrors_eq : guest.withErrors = withErrors
  row : Run.Row (Asks (Line.flow responder).recorded withErrors) (Run.start plan, .fresh, [])
    guest.outcomes (guest.run, line, guest.calls)

namespace Fares

theorem polls (hfares : Fares responder plan withErrors guest line)
    (hpolls : Polls (Line.flow responder) (guest, line) (guest', line')) :
    Fares responder plan withErrors guest' line' := by
  obtain ⟨rfl, hrow⟩ := hfares
  cases hpolls with
  | returns hasks => exact ⟨rfl, hrow.concat hasks⟩

/-- One who has polled was there one poll before. -/
theorem exists_before (hfares : Fares responder plan withErrors guest line) {polls : ℕ}
    (hpolls : guest.outcomes.length = polls + 1) :
    ∃ before line', Fares responder plan withErrors before line' ∧
      before.outcomes.length = polls ∧
        Polls (Line.flow responder) (before, line') (guest, line) := by
  obtain ⟨run, asked, calls, outcomes⟩ := guest
  obtain ⟨hasked, hrow⟩ := hfares
  obtain rfl : asked = withErrors := hasked
  rcases List.eq_nil_or_concat' outcomes with rfl | ⟨outcomes, item, rfl⟩
  · cases hpolls
  · obtain ⟨⟨run', line', calls'⟩, hbefore, hasks⟩ := Run.Row.exists_last hrow
    have hlast : Polls (Line.flow responder) (⟨run', asked, calls', outcomes⟩, line')
        (⟨run, asked, calls, outcomes ++ [item]⟩, line) :=
      .returns hasks
    exact ⟨⟨run', asked, calls', outcomes⟩, line', ⟨rfl, hbefore⟩, by simpa using hpolls, hlast⟩

/-- After as many polls of the same plan, guests have come to the same. -/
theorem unique (hfares : Fares responder plan withErrors guest line)
    (hfares' : Fares responder plan withErrors guest' line')
    (hpolls : guest.outcomes.length = guest'.outcomes.length) : guest = guest' ∧ line = line' := by
  obtain ⟨houtcomes, hstand⟩ := (asks_single _ _).row hfares.row hfares'.row hpolls
  obtain ⟨hrun, hrest⟩ := Prod.mk.inj hstand
  obtain ⟨hline, hcalls⟩ := Prod.mk.inj hrest
  exact ⟨Guest.ext hrun (hfares.withErrors_eq.trans hfares'.withErrors_eq.symm) hcalls houtcomes,
    hline⟩

theorem reached (hfares : Fares responder plan withErrors guest line) :
    Reached (Line.flow responder) plan .fresh (guest.run, line, guest.calls) :=
  hfares.row.keeps (fun hasks h ↦ Reached.asks h hasks) ⟨0, [], rfl, rfl⟩

theorem orderly (hfares : Fares responder plan withErrors guest line) :
    ∃ h : List (Happening V S FlowError), Orderly h ∧
      (Line.flow responder).Path .fresh (callsIn h) line ∧ callsIn h = guest.calls := by
  obtain ⟨moves, h, hafter, hcalls⟩ := hfares.reached
  have hsound := Course.sound_after (Line.flow responder) plan .fresh moves
  have hpath := Course.path_after (Line.flow responder) plan .fresh moves
  rw [hafter] at hsound hpath
  exact ⟨h, hsound.orderly, hpath, hcalls⟩

theorem tickets (hfares : Fares responder plan withErrors guest line) :
    (guest.calls.filterMap FlowCall.submission?).map (·.ticket.number) =
      List.range (guest.calls.filterMap FlowCall.submission?).length := by
  obtain ⟨h, horderly, -, hcalls⟩ := hfares.orderly
  rw [← hcalls, ← dispatchedIn_eq]
  exact horderly.tickets

theorem taken (hfares : Fares responder plan withErrors guest line) :
    guest.calls.filterMap FlowCall.taken? = guest.calls.filterMap FlowCall.submission? := by
  obtain ⟨h, horderly, hpath, hcalls⟩ := hfares.orderly
  rw [← hcalls]
  exact taken_of_orderly horderly hpath

theorem replies (hfares : Fares responder plan withErrors guest line) :
    guest.calls.filterMap FlowCall.reply? <+:
      (guest.calls.filterMap FlowCall.submission?).map fun submission ↦
        submission.settle (responder submission) := by
  have hreplies : guest.calls.filterMap FlowCall.reply? ++ line.replies =
      (guest.calls.filterMap FlowCall.taken?).map fun submission ↦
        submission.settle (responder submission) :=
    hfares.row.keeps (fun hasks h ↦ asks_preserves (replies_preserved responder) hasks h) rfl
  rw [← hfares.taken]
  exact ⟨_, hreplies⟩

end Fares

end Guest

/-! ### What comes of acts -/

namespace House

variable [Resumes V S] {service : TimedService V ω} {house house' house'' : House V S ω}
  {act : Act V S} {acts more : List (Act V S)}

/-- Whoever opens a flow gets a new line. -/
theorem openFlow_loopback (loop : EventLoop V ω) :
    Executor.loopback.openFlow loop =
      .ok (.line loop.lines.size, { loop with lines := loop.lines.push .fresh }) := by
  simp [Executor.openFlow]

theorem Turns.unique (hturns : Turns service house act house')
    (hturns' : Turns service house act house'') : house' = house'' := by
  cases hturns with
  | enter plan withErrors hopen =>
    cases hturns' with
    | enter _ _ hopen' =>
      cases hopen.symm.trans hopen'
      rfl
  | poll hseat hleft hpolls =>
    cases hturns' with
    | poll hseat' _ hpolls' =>
      obtain rfl := Option.some.inj (hseat.symm.trans hseat')
      obtain ⟨rfl, rfl⟩ := hpolls.unique hpolls'
      rfl
    | idle hleft' => cases hleft.symm.trans (hleft' _ hseat)
  | idle hleft =>
    cases hturns' with
    | poll hseat' hleft' => cases hleft'.symm.trans (hleft _ hseat')
    | idle => rfl
  | leave hseat =>
    cases hturns' with
    | leave hseat' =>
      obtain rfl := Option.some.inj (hseat.symm.trans hseat')
      rfl
    | absent hseat' => cases hseat.symm.trans hseat'
  | absent hseat =>
    cases hturns' with
    | leave hseat' => cases hseat.symm.trans hseat'
    | absent => rfl

theorem Leads.unique (hleads : Leads service house acts house')
    (hleads' : Leads service house acts house'') : house' = house'' := by
  induction hleads with
  | nil =>
    cases hleads'
    rfl
  | cons hturns _ ih =>
    cases hleads' with
    | cons hturns' hrest' =>
      obtain rfl := hturns.unique hturns'
      exact ih hrest'

theorem Leads.concat (hleads : Leads service house acts house')
    (hturns : Turns service house' act house'') : Leads service house (acts ++ [act]) house'' := by
  induction hleads with
  | nil => exact .cons hturns .nil
  | cons hfirst _ ih => exact .cons hfirst (ih hturns)

theorem exists_turns [Terminating V S] (service : TimedService V ω) (house : House V S ω)
    (act : Act V S) : ∃ house', Turns service house act house' := by
  cases act with
  | enter plan withErrors => exact ⟨_, .enter plan withErrors (openFlow_loopback house.loop)⟩
  | poll k =>
    rcases hseat : house.seats[k]? with _ | seat
    · exact ⟨house, .idle (by simp [hseat])⟩
    · rcases hleft : seat.left
      · obtain ⟨guest, loop, hpolls⟩ :=
          Guest.exists_polls (EventLoop.flow service .caller seat.dock) seat.guest house.loop
        exact ⟨_, .poll hseat hleft hpolls⟩
      · exact ⟨house, .idle fun other hother ↦ Option.some.inj (hother.symm.trans hseat) ▸ hleft⟩
  | leave k =>
    rcases hseat : house.seats[k]? with _ | seat
    · exact ⟨house, .absent hseat⟩
    · exact ⟨_, .leave hseat⟩

theorem exists_leads [Terminating V S] (service : TimedService V ω) (house : House V S ω)
    (acts : List (Act V S)) : ∃ house', Leads service house acts house' := by
  induction acts generalizing house with
  | nil => exact ⟨house, .nil⟩
  | cons act acts ih =>
    obtain ⟨mid, hturns⟩ := exists_turns service house act
    obtain ⟨house', hrest⟩ := ih mid
    exact ⟨house', .cons hturns hrest⟩

/-- One who is alone in a house polls whenever anything happens. -/
theorem Leads.alone {loop : EventLoop V ω} {seat : Seat V S} {polls : ℕ}
    (hleads : Leads service ⟨loop, [seat]⟩ (List.replicate polls (.poll 0)) house)
    (hleft : seat.left = false) :
    ∃ seat', house.seats = [seat'] ∧ seat'.left = false ∧
      seat'.guest.outcomes.length = seat.guest.outcomes.length + polls := by
  induction polls generalizing loop seat with
  | zero =>
    cases hleads
    exact ⟨seat, rfl, hleft, rfl⟩
  | succ polls ih =>
    cases hleads with
    | cons hturns hrest =>
      cases hturns with
      | poll hseat _ hpolls =>
        obtain rfl := Option.some.inj hseat
        cases hpolls with
        | returns hasks =>
          obtain ⟨seat', hseats, hleft', hlength⟩ := ih hrest hleft
          refine ⟨seat', hseats, hleft', ?_⟩
          rw [hlength, List.length_append, List.length_singleton, Nat.add_assoc, Nat.add_comm 1]
      | idle habsent => simp [hleft] at habsent

theorem Alone.exists_seat {loop : EventLoop V ω} {plan : Plan V S} {withErrors : Bool} {polls : ℕ}
    (halone : Alone service loop plan withErrors polls house) :
    ∃ seat, house.seats = [seat] ∧ seat.left = false ∧ seat.guest.outcomes.length = polls := by
  cases halone with
  | cons hturns hrest =>
    cases hturns with
    | enter =>
      obtain ⟨seat, hseats, hleft, hlength⟩ := hrest.alone rfl
      exact ⟨seat, hseats, hleft, hlength.trans (Nat.zero_add polls)⟩

end House

/-! ### Houses in order -/

section Houses

variable [Resumes V S]

/-- A guest has this line for its own, and fares as over a line by itself. -/
structure Seat.InOrder (responder : Submission V → Except Failure Response) (index : ℕ)
    (loop : EventLoop V ω) (entry : Plan V S × Bool) (seat : Seat V S) : Prop where
  dock : seat.dock = .line index
  alike : ∃ line, loop.lines[index]? = some line ∧
    seat.guest.Fares responder entry.1 entry.2 line

/-- The journal mixes what the guests handed over, each in its order. -/
def House.Journals (loop : EventLoop V ω) (house : House V S ω) : Prop :=
  ∃ log : List (ℕ × Submission V),
    house.loop.journal.toList = loop.journal.toList ++ log.map (·.2.route) ∧
      (∀ entry ∈ log, entry.1 < house.seats.length) ∧
      ∀ k seat, house.seats[k]? = some seat →
        (log.filter (·.1 = k)).map Prod.snd = seat.guest.calls.filterMap FlowCall.taken?

/-- Every guest fares as if alone, those having entered in this order. -/
structure House.InOrder (responder : Submission V → Except Failure Response)
    (loop : EventLoop V ω) (entered : List (Plan V S × Bool)) (house : House V S ω) : Prop where
  lines : house.loop.lines.size = loop.lines.size + house.seats.length
  count : house.seats.length = entered.length
  seats : ∀ (k : ℕ) (seat : Seat V S), house.seats[k]? = some seat → ∃ entry,
    entered[k]? = some entry ∧
    seat.InOrder responder (loop.lines.size + k) house.loop entry
  journal : house.Journals loop

variable {responder : Submission V → Except Failure Response} {service : TimedService V ω}
  {loop : EventLoop V ω} {entered : List (Plan V S × Bool)} {house house' : House V S ω}

theorem Seat.InOrder.of_line {index : ℕ} {loop' : EventLoop V ω} {entry : Plan V S × Bool}
    {seat : Seat V S} (hseat : seat.InOrder responder index loop entry)
    (hline : loop'.lines[index]? = loop.lines[index]?) :
    seat.InOrder responder index loop' entry := by
  obtain ⟨line, hmine, hfares⟩ := hseat.alike
  exact ⟨hseat.dock, line, hline.trans hmine, hfares⟩

omit [Resumes V S] in
theorem seat_of_enter {seats : List (Seat V S)} {seat seat' : Seat V S} {k : ℕ}
    (hseat : (seats ++ [seat'])[k]? = some seat) :
    seats[k]? = some seat ∨ k = seats.length ∧ seat = seat' := by
  rw [List.getElem?_append] at hseat
  split_ifs at hseat with hk
  · exact Or.inl hseat
  · obtain ⟨hless, hsame⟩ := List.getElem?_eq_some_iff.mp hseat
    simp only [List.length_singleton] at hless
    exact Or.inr ⟨by omega, by simpa using hsame.symm⟩

omit [Resumes V S] in
theorem seat_of_set {seats : List (Seat V S)} {seat seat' other : Seat V S} {j k : ℕ}
    (hseat : seats[k]? = some seat) (hother : (seats.set k seat')[j]? = some other) :
    j = k ∧ other = seat' ∨ j ≠ k ∧ seats[j]? = some other := by
  by_cases hjk : j = k
  · subst hjk
    have hj : j < seats.length := (List.getElem?_eq_some_iff.mp hseat).1
    rw [List.getElem?_set_self hj] at hother
    exact Or.inl ⟨rfl, (Option.some.inj hother).symm⟩
  · rw [List.getElem?_set_ne (Ne.symm hjk)] at hother
    exact Or.inr ⟨hjk, hother⟩

omit [Resumes V S] in
/-- A guest who enters has nothing in the journal yet. -/
theorem House.Journals.enter (hjournals : house.Journals loop) {guest : Guest V S}
    (hguest : guest.calls = []) (dock : Dock) {loop' : EventLoop V ω}
    (hjournal : loop'.journal = house.loop.journal) :
    House.Journals loop ⟨loop', house.seats ++ [⟨guest, dock, false⟩]⟩ := by
  obtain ⟨log, hmixed, hguests, hlog⟩ := hjournals
  refine ⟨log, hjournal ▸ hmixed, fun entry hentry ↦ ?_, fun k seat hseat ↦ ?_⟩
  · have hless := hguests entry hentry
    simp only [List.length_append, List.length_singleton]
    omega
  · rcases seat_of_enter hseat with hseat | ⟨rfl, rfl⟩
    · exact hlog k seat hseat
    · have hnone : log.filter (·.1 = house.seats.length) = [] :=
        List.filter_eq_nil_iff.mpr fun entry hentry ↦ by simpa using (hguests entry hentry).ne
      rw [hnone, hguest]
      rfl

theorem House.InOrder.enter (horder : house.InOrder responder loop entered)
    (plan : Plan V S) (withErrors : Bool) :
    House.InOrder responder loop (entered ++ [(plan, withErrors)])
      ⟨{ house.loop with lines := house.loop.lines.push .fresh },
        house.seats ++ [⟨.start plan withErrors, .line house.loop.lines.size, false⟩]⟩ := by
  refine ⟨?_, ?_, ?_, horder.journal.enter rfl _ rfl⟩
  · simp [horder.lines, Nat.add_assoc]
  · simp [horder.count]
  · intro k seat hseat
    rcases seat_of_enter hseat with hseat | ⟨rfl, rfl⟩
    · have hk : k < house.seats.length := (List.getElem?_eq_some_iff.mp hseat).1
      obtain ⟨entry, hentry, hseated⟩ := horder.seats k seat hseat
      refine ⟨entry, ?_, hseated.of_line ?_⟩
      · rwa [List.getElem?_append_left (horder.count ▸ hk)]
      · rw [Array.getElem?_push, if_neg (by rw [horder.lines]; omega)]
    · refine ⟨(plan, withErrors), by simp [horder.count], ?_, .fresh, ?_, rfl, .nil⟩
      · rw [horder.lines]
      · rw [Array.getElem?_push, if_pos horder.lines.symm]

omit [Resumes V S] in
/-- What a guest hands over when it polls goes to the end of the journal. -/
theorem House.Journals.poll (hjournals : house.Journals loop) {k : ℕ} {seat : Seat V S}
    (hseat : house.seats[k]? = some seat) {guest : Guest V S} {loop' : EventLoop V ω} {index : ℕ}
    (hkeeps : Keeps index house.loop seat.guest.calls (loop', guest.calls)) :
    House.Journals loop ⟨loop', house.seats.set k { seat with guest }⟩ := by
  obtain ⟨log, hmixed, hguests, hlog⟩ := hjournals
  obtain ⟨more, htaken, hjournal⟩ := hkeeps.journal
  have hk : k < house.seats.length := (List.getElem?_eq_some_iff.mp hseat).1
  refine ⟨log ++ more.map (k, ·), ?_, ?_, ?_⟩
  · show loop'.journal.toList = _
    rw [hjournal, hmixed]
    simp
  · intro entry hentry
    rw [List.length_set]
    rcases List.mem_append.mp hentry with hentry | hentry
    · exact hguests entry hentry
    · obtain ⟨submission, -, rfl⟩ := List.mem_map.mp hentry
      exact hk
  · intro j other hother
    rw [List.filter_append, List.map_append]
    rcases seat_of_set hseat hother with ⟨rfl, rfl⟩ | ⟨hjk, hother⟩
    · rw [hlog j seat hseat]
      simpa [List.filter_map, Function.comp_def] using htaken.symm
    · rw [hlog j other hother]
      simp [List.filter_map, Function.comp_def, Ne.symm hjk]

/-- Dropping a stream of a loopback executor does nothing to the house. -/
theorem House.InOrder.leave (horder : house.InOrder responder loop entered) {k : ℕ}
    {seat : Seat V S} (hseat : house.seats[k]? = some seat) :
    House.InOrder responder loop entered
      ⟨(house.loop.dropSending seat.dock).dropCollecting seat.dock,
        house.seats.set k { seat with left := true }⟩ := by
  obtain ⟨entry, hentry, hdock, line, hline, hfares⟩ := horder.seats k seat hseat
  have hdrop : (house.loop.dropSending seat.dock).dropCollecting seat.dock = house.loop := by
    simp [hdock, EventLoop.dropSending, EventLoop.dropCollecting]
  have hsame : ∀ (j : ℕ) (other : Seat V S),
      (house.seats.set k { seat with left := true })[j]? = some other →
        ∃ other', house.seats[j]? = some other' ∧ other'.guest = other.guest ∧
          other'.dock = other.dock := by
    intro j other hother
    rcases seat_of_set hseat hother with ⟨rfl, rfl⟩ | ⟨-, hother⟩
    · exact ⟨seat, hseat, rfl, rfl⟩
    · exact ⟨other, hother, rfl, rfl⟩
  rw [hdrop]
  refine ⟨by rw [List.length_set, horder.lines], by rw [List.length_set, horder.count], ?_, ?_⟩
  · intro j other hother
    obtain ⟨other', hother', hguest', hdock'⟩ := hsame j other hother
    obtain ⟨entry', hentry', hdock, line', hline', hfares'⟩ := horder.seats j other' hother'
    exact ⟨entry', hentry', hdock' ▸ hdock, line', hline', hguest' ▸ hfares'⟩
  · obtain ⟨log, hmixed, hguests, hlog⟩ := horder.journal
    refine ⟨log, hmixed, by rwa [List.length_set], fun j other hother ↦ ?_⟩
    obtain ⟨other', hother', hguest', -⟩ := hsame j other hother
    rw [← hguest']
    exact hlog j other' hother'

section Acts

variable (hresponder : ∀ tick submission w, (service tick submission w).1 = responder submission)
include hresponder

theorem House.InOrder.poll (horder : house.InOrder responder loop entered) {k : ℕ}
    {seat : Seat V S} (hseat : house.seats[k]? = some seat) {guest : Guest V S}
    {loop' : EventLoop V ω}
    (hpolls : Guest.Polls (EventLoop.flow service .caller seat.dock) (seat.guest, house.loop)
      (guest, loop')) :
    House.InOrder responder loop entered ⟨loop', house.seats.set k { seat with guest }⟩ := by
  obtain ⟨entry, hentry, hdock, line, hline, hfares⟩ := horder.seats k seat hseat
  rw [hdock] at hpolls
  obtain ⟨line', hpolls', hline'⟩ :=
    hpolls.follows (mirrors_line hresponder (loop.lines.size + k)) hline
  have hkeeps : Keeps (loop.lines.size + k) house.loop seat.guest.calls (loop', guest.calls) :=
    hpolls.preserves (keeps_preserved service (loop.lines.size + k) house.loop _)
      ⟨rfl, fun _ _ ↦ rfl, [], by simp, by simp⟩
  refine ⟨?_, ?_, ?_, horder.journal.poll hseat hkeeps⟩
  · rw [hkeeps.size, horder.lines, List.length_set]
  · rw [List.length_set, horder.count]
  · intro j other hother
    rcases seat_of_set hseat hother with ⟨rfl, rfl⟩ | ⟨hjk, hother⟩
    · exact ⟨entry, hentry, hdock, line', hline', hfares.polls hpolls'⟩
    · obtain ⟨entry', hentry', hseated⟩ := horder.seats j other hother
      exact ⟨entry', hentry', hseated.of_line (hkeeps.others _ (by omega))⟩

/-- Whatever happens in a house, it stays in order. -/
theorem House.InOrder.leads (horder : house.InOrder responder loop entered)
    {acts : List (Act V S)} (hleads : House.Leads service house acts house') :
    house'.InOrder responder loop (entered ++ entering acts) := by
  induction hleads generalizing entered with
  | nil => simpa [entering] using horder
  | @cons house mid house' act acts hturns _ ih =>
    cases hturns with
    | enter plan withErrors hopen =>
      rw [House.openFlow_loopback] at hopen
      cases hopen
      simpa [entering] using ih (horder.enter plan withErrors)
    | poll hseat hleft hpolls => simpa [entering] using ih (horder.poll hresponder hseat hpolls)
    | idle => simpa [entering] using ih horder
    | leave hseat => simpa [entering] using ih (horder.leave hseat)
    | absent => simpa [entering] using ih horder

theorem House.After.inOrder {acts : List (Act V S)}
    (hafter : House.After service loop acts house) :
    house.InOrder responder loop (entering acts) := by
  have hempty : House.InOrder responder loop ([] : List (Plan V S × Bool)) ⟨loop, []⟩ :=
    ⟨rfl, rfl, by simp, [], by simp, by simp, by simp⟩
  exact hempty.leads hresponder hafter

end Acts

/-! ### One who is alone -/

section Alone

variable (hresponder : ∀ tick submission w, (service tick submission w).1 = responder submission)
  {plan : Plan V S} {withErrors : Bool}
include hresponder

/-- What a poll returns over the line by itself it returns in the house. -/
theorem Seat.InOrder.exists_polls {index : ℕ} {entry : Plan V S × Bool} {seat : Seat V S}
    (hseat : seat.InOrder responder index loop entry) {line line' : Line V} {guest : Guest V S}
    (hfares : seat.guest.Fares responder entry.1 entry.2 line)
    (hpolls : Guest.Polls (Line.flow responder) (seat.guest, line) (guest, line')) :
    ∃ loop', Guest.Polls (EventLoop.flow service .caller seat.dock) (seat.guest, loop)
      (guest, loop') := by
  obtain ⟨hdock, mine, hline, hmine⟩ := hseat
  obtain rfl := (hmine.unique hfares rfl).2
  obtain ⟨loop', hpolls', -⟩ := hpolls.follows (mirrors_line hresponder index).symm hline
  exact ⟨loop', hdock ▸ hpolls'⟩

/-- One who is alone in a house fares as over a line by itself. -/
theorem House.Alone.fares {polls : ℕ}
    (halone : House.Alone service loop plan withErrors polls house) :
    ∃ seat line, house.seats = [seat] ∧ seat.left = false ∧
      seat.guest.outcomes.length = polls ∧ seat.guest.Fares responder plan withErrors line ∧
      seat.InOrder responder loop.lines.size house.loop (plan, withErrors) := by
  obtain ⟨seat, hseats, hleft, hlength⟩ := halone.exists_seat
  obtain ⟨entry, hentry, hseat⟩ :=
    (House.After.inOrder hresponder halone).seats 0 seat (by rw [hseats]; rfl)
  obtain rfl : (plan, withErrors) = entry := by simpa [entering] using hentry
  obtain ⟨line, -, hfares⟩ := hseat.alike
  exact ⟨seat, line, hseats, hleft, hlength, hfares, hseat⟩

/-- Whatever one may have come to over a line by itself, one who is alone in a house may. -/
theorem Guest.Fares.exists_alone (loop : EventLoop V ω) {guest : Guest V S} {line : Line V}
    (hfares : guest.Fares responder plan withErrors line) :
    ∃ house seat, House.Alone service loop plan withErrors guest.outcomes.length house ∧
      house.seats = [seat] ∧ seat.guest = guest := by
  suffices halone : ∃ house,
      House.Alone service loop plan withErrors guest.outcomes.length house by
    obtain ⟨house, halone⟩ := halone
    obtain ⟨seat, line', hseats, -, hlength, hfares', -⟩ := halone.fares hresponder
    exact ⟨house, seat, halone, hseats, (hfares'.unique hfares hlength).1⟩
  induction hpolls : guest.outcomes.length generalizing guest line with
  | zero => exact ⟨_, .cons (.enter plan withErrors (House.openFlow_loopback loop)) .nil⟩
  | succ polls ih =>
    obtain ⟨before, line', hbefore, hcount, hlast⟩ := hfares.exists_before hpolls
    obtain ⟨house, halone⟩ := ih hbefore hcount
    obtain ⟨seat, line'', hseats, hleft, hlength, hfares', hseat⟩ := halone.fares hresponder
    obtain ⟨rfl, rfl⟩ := hfares'.unique hbefore (hlength.trans hcount.symm)
    obtain ⟨loop', hpolls'⟩ := hseat.exists_polls hresponder hfares' hlast
    refine ⟨⟨loop', house.seats.set 0 { seat with guest }⟩, ?_⟩
    rw [House.Alone, List.replicate_succ', ← List.cons_append]
    exact House.Leads.concat halone (.poll (by rw [hseats]; rfl) hleft hpolls')

/-- The poll of a guest returns if one who is alone in a house can poll once more. -/
theorem House.InOrder.turns_iff (horder : house.InOrder responder loop entered)
    (other : EventLoop V ω) {k : ℕ} {seat : Seat V S} (hseat : house.seats[k]? = some seat)
    (hleft : seat.left = false) (hentry : entered[k]? = some (plan, withErrors)) :
    (∃ house', House.Turns service house (.poll k) house') ↔
      ∃ lone, House.Alone service other plan withErrors (seat.guest.outcomes.length + 1) lone := by
  obtain ⟨entry, hentry', hordered⟩ := horder.seats k seat hseat
  obtain rfl : (plan, withErrors) = entry := Option.some.inj (hentry.symm.trans hentry')
  obtain ⟨line, hline, hfares⟩ := hordered.alike
  constructor
  · rintro ⟨house', hturns⟩
    cases hturns with
    | poll hseat' _ hpolls =>
      obtain rfl := Option.some.inj (hseat.symm.trans hseat')
      rw [hordered.dock] at hpolls
      obtain ⟨line', hpolls', -⟩ := hpolls.follows (mirrors_line hresponder _) hline
      obtain ⟨lone, -, halone, -⟩ := (hfares.polls hpolls').exists_alone hresponder other
      exact ⟨lone, hpolls'.length_outcomes ▸ halone⟩
    | idle habsent => cases hleft.symm.trans (habsent seat hseat)
  · rintro ⟨lone, halone⟩
    obtain ⟨loneSeat, line', hseats, -, hlength, hfares', -⟩ := halone.fares hresponder
    obtain ⟨before, line'', hbefore, hcount, hlast⟩ := hfares'.exists_before hlength
    obtain ⟨rfl, rfl⟩ := hbefore.unique hfares hcount
    obtain ⟨loop', hpolls⟩ := hordered.exists_polls hresponder hfares hlast
    exact ⟨_, .poll hseat hleft hpolls⟩

end Alone

/-- Runs over one loopback executor are independent, if its answers depend on the submissions alone:
however the guests of a house enter, poll and leave, each of them fares, call by call and item by
item, as one does who is alone in a house and polls as often, and a poll of it returns if one who is
alone can poll once more. Its tickets count up from zero, and the replies it gets are those to its
own submissions, in order. The journal mixes what the guests handed over, each in its order. Acts
lead to one house only, and wherever the moves of runs come to an end they lead to one. -/
theorem guests_fare_alone
    (hresponder : ∀ tick submission w, (service tick submission w).1 = responder submission)
    (loop other : EventLoop V ω) :
    (∀ (acts : List (Act V S)) (house : House V S ω), House.After service loop acts house →
      (∀ (k : ℕ) (plan : Plan V S) (withErrors : Bool),
        (entering acts)[k]? = some (plan, withErrors) →
          ∃ seat, house.seats[k]? = some seat ∧
            (∃ lone seat',
              House.Alone service other plan withErrors seat.guest.outcomes.length lone ∧
                lone.seats = [seat'] ∧ seat'.guest = seat.guest) ∧
            (seat.left = false → ((∃ house', House.Turns service house (.poll k) house') ↔
              ∃ lone, House.Alone service other plan withErrors
                (seat.guest.outcomes.length + 1) lone)) ∧
            (seat.guest.calls.filterMap FlowCall.submission?).map (·.ticket.number) =
              List.range (seat.guest.calls.filterMap FlowCall.submission?).length ∧
            seat.guest.calls.filterMap FlowCall.reply? <+:
              (seat.guest.calls.filterMap FlowCall.submission?).map fun submission ↦
                submission.settle (responder submission)) ∧
        ∃ log : List (ℕ × Submission V),
          house.loop.journal.toList = loop.journal.toList ++ log.map (·.2.route) ∧
            (∀ entry ∈ log, entry.1 < (entering acts).length) ∧
            ∀ (k : ℕ) (seat : Seat V S), house.seats[k]? = some seat →
              (log.filter (·.1 = k)).map Prod.snd =
                seat.guest.calls.filterMap FlowCall.submission?) ∧
    (∀ (start : EventLoop V ω) (acts : List (Act V S)) (house house' : House V S ω),
      House.After service start acts house → House.After service start acts house' →
        house = house') ∧
    ∀ _ : Terminating V S,
      (∀ flow : Flow V (EventLoop V ω × List (FlowCall V FlowError)) FlowError,
        Run.Returns (S := S) flow = Run.Drives (Run.pollNext flow) ∧
          Run.ReturnsValue (S := S) flow = Run.Drives (Run.pollValue flow)) ∧
      ∀ acts : List (Act V S), ∃ house, House.After service loop acts house := by
  refine ⟨fun acts house hafter ↦ ⟨fun k plan withErrors hentering ↦ ?_, ?_⟩,
    fun _ _ _ _ hafter hafter' ↦ House.Leads.unique hafter hafter',
    fun _ ↦ ⟨fun flow ↦ ⟨Run.returns_eq flow, Run.returnsValue_eq flow⟩,
      fun acts ↦ House.exists_leads service _ acts⟩⟩
  · have horder := hafter.inOrder hresponder
    have hk : k < house.seats.length :=
      horder.count ▸ (List.getElem?_eq_some_iff.mp hentering).1
    have hseat := List.getElem?_eq_getElem hk
    obtain ⟨entry, hentry, hordered⟩ := horder.seats k _ hseat
    obtain rfl : (plan, withErrors) = entry := Option.some.inj (hentering.symm.trans hentry)
    obtain ⟨line, -, hfares⟩ := hordered.alike
    exact ⟨_, hseat, hfares.exists_alone hresponder other,
      fun hleft ↦ horder.turns_iff hresponder other hseat hleft hentering, hfares.tickets,
      hfares.replies⟩
  · have horder := hafter.inOrder hresponder
    obtain ⟨log, hmixed, hguests, hlog⟩ := horder.journal
    refine ⟨log, hmixed, horder.count ▸ hguests, fun k seat hseat ↦ ?_⟩
    obtain ⟨entry, -, hordered⟩ := horder.seats k seat hseat
    obtain ⟨line, -, hfares⟩ := hordered.alike
    rw [hlog k seat hseat, hfares.taken]

end Houses

/-- Two guests poll in turns, and one of them leaves early; the service counts the submissions, but
answers with their tickets. -/
theorem guests_fare_alone_of_two :
    let service : TimedService values ℕ :=
      fun _ submission n ↦ (.ok (.ok [submission.ticket.number.toUInt8]), n + 1)
    let loop : EventLoop values ℕ := .start 5 fun _ ↦ []
    let request : Request UInt8 :=
      { route := ⟨.get, "/"⟩, decode := fun response ↦ .ok response.body.head?, label := "Get" }
    let plan : Plan values (Step values) := ((Program.submit request).flatMap fun n ↦
      (.ofList [n, n + 1] : Program values UInt8)).erase
    let acts : List (Act values (Step values)) :=
      [.enter plan true, .poll 0, .enter plan false, .poll 1, .poll 0, .leave 0, .poll 0, .poll 1]
    ∃ house seat, House.After service loop acts house ∧ house.seats[1]? = some seat ∧
      ∃ lone seat', House.Alone service loop plan false seat.guest.outcomes.length lone ∧
        lone.seats = [seat'] ∧ seat'.guest = seat.guest := by
  intro service loop request plan acts
  have hresponder : ∀ tick submission w, (service tick submission w).1 =
      .ok (.ok [submission.ticket.number.toUInt8]) := fun _ _ _ ↦ rfl
  obtain ⟨hfare, -, hreturns⟩ := guests_fare_alone (S := Step values) hresponder loop loop
  obtain ⟨house, hafter⟩ := (hreturns inferInstance).2 acts
  obtain ⟨seat, hseat, hlone, -⟩ := (hfare acts house hafter).1 1 plan false rfl
  exact ⟨house, seat, hafter, hseat, hlone⟩

end Loopback

end Errand
