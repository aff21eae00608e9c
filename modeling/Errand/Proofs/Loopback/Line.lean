import Errand.EventLoop
import Errand.Proofs.Flow.Faithful
import Errand.Proofs.Flow.Mirroring
import Errand.Proofs.Run.Discipline

/-!
A line of a loopback executor by itself. What a line of an event loop does with the calls of its
client is what a line by itself does, whoever else uses the event loop, as long as answers depend on
the submission alone (`mirrors_line`). Its client leaves the lines of others alone, and the journal
grows by what the line takes (`keeps_preserved`).

A line gives the replies to the submissions it took, in order (`replies_preserved`), and it takes
whatever a run hands over (`taken_of_orderly`).
-/

set_option autoImplicit false

namespace Errand

variable {V : ValueTypes} {S ω : Type}

/-- The submission handed over, whether or not the flow took it. -/
def FlowCall.submission? {ε : Type} : FlowCall V ε → Option (Submission V)
  | .dispatch submission _ => some submission
  | _ => none

/-- The submission that a flow took. -/
def FlowCall.taken? {ε : Type} : FlowCall V ε → Option (Submission V)
  | .dispatch submission (.ok ()) => some submission
  | _ => none

/-- The reply that came. -/
def FlowCall.reply? {ε : Type} : FlowCall V ε → Option (Reply V)
  | .reply (.ready (.ok answer)) => some answer
  | _ => none

namespace Loopback

/-! ### A line by itself -/

/-- The flow of a line, when answers depend on the submission alone. -/
def Line.flow (responder : Submission V → Except Failure Response) :
    Flow V (Line V) FlowError where
  pollReady line := (.ready (line.ready.mapError .loopback), line)
  startDispatch submission line :=
    let (outcome, line, _, _) :=
      line.dispatch (fun submission () ↦ (responder submission, ())) submission #[] ()
    (outcome.mapError .loopback, line)
  pollFlush line := (.ready (.ok ()), line)
  pollClose line := (.ready (.ok ()), line.close)
  pollReply line :=
    let (outcome, line) := line.collect
    (.ready (outcome.mapError .loopback), line)

section Line

variable {responder : Submission V → Except Failure Response} {service : TimedService V ω}
  {loop : EventLoop V ω} {index : ℕ} {line : Line V}

/-- The line of a guest after something was done with it. -/
theorem getElem?_setIfInBounds_line (hline : loop.lines[index]? = some line) (line' : Line V) :
    (loop.lines.setIfInBounds index line')[index]? = some line' := by
  rw [Array.getElem?_setIfInBounds_self, if_pos (Array.getElem?_eq_some_iff.mp hline).1]

variable (hresponder : ∀ tick submission w, (service tick submission w).1 = responder submission)
include hresponder

/-- A line of a house does with every call what a line by itself does. -/
theorem mirrors_line (index : ℕ) :
    (EventLoop.flow service .caller (.line index)).Mirrors (Line.flow responder)
      fun loop line ↦ loop.lines[index]? = some line where
  ready := fun {loop line} hline ↦
    ⟨by simp [EventLoop.flow, EventLoop.pollReady, Line.flow, hline], hline⟩
  dispatch := fun submission {loop line} hline ↦ by
    by_cases hclosed : line.closed = true
    · refine ⟨?_, ?_⟩
      · simp [EventLoop.flow, EventLoop.startDispatch, Line.flow, Line.dispatch, hline, hclosed]
      · simpa [EventLoop.flow, EventLoop.startDispatch, Line.flow, Line.dispatch, hline, hclosed]
          using getElem?_setIfInBounds_line hline line
    · refine ⟨?_, ?_⟩
      · simp [EventLoop.flow, EventLoop.startDispatch, Line.flow, Line.dispatch, hline, hclosed]
      · simpa [EventLoop.flow, EventLoop.startDispatch, Line.flow, Line.dispatch, hline, hclosed,
          hresponder] using getElem?_setIfInBounds_line hline _
  flush := fun hline ↦ ⟨rfl, hline⟩
  close := fun {loop line} hline ↦
    ⟨rfl, by simp [EventLoop.flow, EventLoop.pollClose, Line.flow, Array.getElem?_modify, hline]⟩
  reply := fun {loop line} hline ↦
    ⟨by simp [EventLoop.flow, EventLoop.pollReply, Line.flow, hline],
      by simpa [EventLoop.flow, EventLoop.pollReply, Line.flow, hline]
        using getElem?_setIfInBounds_line hline _⟩

/-- What a guest leaves alone: the other lines of the house. The journal grows by what the line
took. -/
structure Keeps (index : ℕ) (loop : EventLoop V ω) (calls : List (FlowCall V FlowError))
    (s : EventLoop V ω × List (FlowCall V FlowError)) : Prop where
  size : s.1.lines.size = loop.lines.size
  others : ∀ other, other ≠ index → s.1.lines[other]? = loop.lines[other]?
  journal : ∃ more : List (Submission V),
    s.2.filterMap FlowCall.taken? = calls.filterMap FlowCall.taken? ++ more ∧
      s.1.journal.toList = loop.journal.toList ++ more.map Submission.route

omit hresponder in
/-- A call that left the other lines alone, and of which the journal tells what was taken. -/
theorem Keeps.called {calls : List (FlowCall V FlowError)}
    {s : EventLoop V ω × List (FlowCall V FlowError)} (hs : Keeps index loop calls s)
    {call : FlowCall V FlowError} {loop' : EventLoop V ω}
    (hsize : loop'.lines.size = s.1.lines.size)
    (hothers : ∀ other, other ≠ index → loop'.lines[other]? = s.1.lines[other]?)
    (hjournal : loop'.journal.toList =
      s.1.journal.toList ++ (call.taken?.map Submission.route).toList) :
    Keeps index loop calls (loop', s.2 ++ [call]) := by
  obtain ⟨more, htaken, hmore⟩ := hs.journal
  refine ⟨hsize.trans hs.size, fun other hother ↦ (hothers other hother).trans
    (hs.others other hother), more ++ call.taken?.toList, ?_, ?_⟩
  · rcases hcall : call.taken? with _ | submission <;> simp [hcall, htaken]
  · show loop'.journal.toList = _
    rcases hcall : call.taken? with _ | submission <;> simp [hjournal, hmore, hcall]

omit hresponder in
/-- Whatever a guest does with its line, it leaves the lines of the others alone. -/
theorem keeps_preserved (service : TimedService V ω) (index : ℕ) (loop : EventLoop V ω)
    (calls : List (FlowCall V FlowError)) :
    (EventLoop.flow service .caller (.line index)).recorded.Preserves (Keeps index loop calls) where
  ready := fun s hs ↦ hs.called rfl (fun _ _ ↦ rfl) (by simp [FlowCall.taken?])
  dispatch := fun submission s hs ↦ by
    rw [Flow.recorded_startDispatch]
    refine hs.called (by simp [EventLoop.flow, EventLoop.startDispatch]) (fun other hother ↦ ?_) ?_
    · simp [EventLoop.flow, EventLoop.startDispatch, Array.getElem?_setIfInBounds_ne hother.symm]
    · by_cases hclosed : ((s.1.lines[index]?).getD .fresh).closed = true <;>
        simp [EventLoop.flow, EventLoop.startDispatch, Line.dispatch, hclosed, Except.mapError,
          FlowCall.taken?]
  flush := fun s hs ↦ hs.called rfl (fun _ _ ↦ rfl) (by simp [FlowCall.taken?])
  close := fun s hs ↦ hs.called (by simp)
    (fun _ hother ↦ by simp [Array.getElem?_modify, hother.symm]) (by simp [FlowCall.taken?])
  reply := fun s hs ↦ hs.called (by simp)
    (fun _ hother ↦ by simp [Array.getElem?_setIfInBounds_ne hother.symm])
    (by simp [FlowCall.taken?])

omit hresponder in
/-- Every reply that a line gives is the one to the oldest submission not replied to yet. -/
theorem replies_preserved (responder : Submission V → Except Failure Response) :
    (Line.flow responder).recorded.Preserves fun s ↦
      s.2.filterMap FlowCall.reply? ++ s.1.replies =
        (s.2.filterMap FlowCall.taken?).map fun submission ↦
          submission.settle (responder submission) where
  ready := fun s hs ↦ by
    simpa [Flow.recorded, Line.flow, FlowCall.reply?, FlowCall.taken?, List.filterMap_cons] using hs
  dispatch := fun submission ⟨line, calls⟩ hs ↦ by
    by_cases hclosed : line.closed = true
    · simpa [Flow.recorded, Line.flow, Line.dispatch, hclosed, Except.mapError, FlowCall.reply?,
        FlowCall.taken?, List.filterMap_cons] using hs
    · simp [Flow.recorded, Line.flow, Line.dispatch, hclosed, Except.mapError, FlowCall.reply?,
        FlowCall.taken?, List.filterMap_cons, ← hs]
  flush := fun s hs ↦ by
    simpa [Flow.recorded, Line.flow, FlowCall.reply?, FlowCall.taken?, List.filterMap_cons] using hs
  close := fun s hs ↦ by
    simpa [Flow.recorded, Line.flow, Line.close, FlowCall.reply?, FlowCall.taken?,
      List.filterMap_cons] using hs
  reply := fun ⟨⟨replies, closed⟩, calls⟩ hs ↦ by
    rcases replies with _ | ⟨reply, replies⟩
    · simpa [Flow.recorded, Line.flow, Line.collect, Except.mapError, FlowCall.reply?,
        FlowCall.taken?, List.filterMap_cons] using hs
    · simpa [Flow.recorded, Line.flow, Line.collect, Except.mapError, FlowCall.reply?,
        FlowCall.taken?, List.filterMap_cons] using hs

end Line

/-! ### What a line takes -/

theorem dispatchedIn_eq (h : List (Happening V S FlowError)) :
    dispatchedIn h = (callsIn h).filterMap FlowCall.submission? := by
  rw [callsIn, List.filterMap_filterMap]
  refine List.filterMap_congr fun happening _ ↦ ?_
  rcases happening with call | _ | _
  · cases call <;> rfl
  · rfl
  · rfl

/-- A line that has said that it is ready takes what it is handed. -/
theorem taken_after_ready {responder : Submission V → Except Failure Response} {line t t' : Line V}
    {submission : Submission V} {answer : Except FlowError Unit}
    {calls : List (FlowCall V FlowError)}
    (hready : (Line.flow responder).Path line [.ready (.ready (.ok ()))] t)
    (hdispatch : (Line.flow responder).Path t (.dispatch submission answer :: calls) t') :
    FlowCall.taken? (.dispatch submission answer) = some submission := by
  cases hready with
  | cons hmake hnil =>
    cases hnil
    cases hdispatch with
    | cons hmake' _ =>
      by_cases hclosed : line.closed = true
      · simp [Flow.make, FlowCall.ask, Line.flow, Line.ready, hclosed, Except.mapError] at hmake
      · simp [Flow.make, FlowCall.ask, Line.flow, Line.ready, hclosed, Except.mapError] at hmake
        subst hmake
        simp [Flow.make, FlowCall.ask, Line.flow, Line.dispatch, hclosed, Except.mapError] at hmake'
        simp [← hmake'.1, FlowCall.taken?]

/-- A line by itself takes whatever a run hands over: it is only closed in the end. -/
theorem taken_of_orderly {responder : Submission V → Except Failure Response}
    {h : List (Happening V S FlowError)} {line line' : Line V} (horderly : Orderly h)
    (hpath : (Line.flow responder).Path line (callsIn h) line') :
    (callsIn h).filterMap FlowCall.taken? = (callsIn h).filterMap FlowCall.submission? := by
  refine List.filterMap_congr fun call hcall ↦ ?_
  obtain ⟨happening, hmem, hhappening⟩ := List.mem_filterMap.mp hcall
  obtain ⟨past, later, rfl⟩ := List.append_of_mem hmem
  rcases happening with call' | _ | _
  · obtain rfl : call' = call := by simpa using hhappening
    rcases call' with _ | ⟨submission, answer⟩ | _ | _ | _
    · rfl
    · obtain ⟨-, -, -, hready⟩ := horderly past _ later rfl
      obtain ⟨before, rfl⟩ := List.getLast?_eq_some_iff.mp hready
      rw [callsIn_append, callsIn_append] at hpath
      obtain ⟨t, hbefore, hdispatch⟩ := hpath.split
      obtain ⟨u, -, hready⟩ := hbefore.split
      exact (taken_after_ready hready hdispatch).trans rfl
    · rfl
    · rfl
    · rfl
  · cases hhappening
  · cases hhappening

end Loopback

end Errand
