import Errand.Executor
import Errand.Proofs.Flow.Scripted
import Errand.Proofs.Loopback.Line
import Errand.Values

/-!
What is done over a loopback executor, and what comes of it. Flows are opened, those opened are
asked in any order, and the journal is read and cleared; a ledger has an entry for each (`Ledger`).
A copy of the executor shares all it has, so it does not matter from which copy a flow is opened.
The service may keep a state and answer as it likes.

Every entry is what the entries before it make it (`Entry.Follows`), as what is in the lines, in the
journal and in the service is what the entries say (`Line.Accords`, `Ledger.Kept`, `kept_after`).
So the replies that were collected on a flow and those that wait are the replies to what it took,
closed flows take nothing, and the journal tells what was taken since it was cleared
(`ledger_tells_all`).
-/

set_option autoImplicit false

namespace Errand

variable {V : ValueTypes} {ω : Type}

/-- Whether the call closes its flow. -/
def FlowCall.closes {ε : Type} : FlowCall V ε → Bool
  | .close _ => true
  | _ => false

namespace Loopback

/-! ### Ledgers -/

/-- What may be done over a loopback executor. -/
inductive Deed (V : ValueTypes) where
  | openFlow
  /-- The flow that was opened after so many others is asked. -/
  | ask (k : ℕ) (ask : Ask V)
  | readJournal
  | clearJournal

/-- What was done, with what came of it. -/
inductive Entry (V : ValueTypes) where
  | opened
  | called (k : ℕ) (call : FlowCall V FlowError)
  /-- There was no such flow. -/
  | missed (k : ℕ) (ask : Ask V)
  | read (routes : List Route)
  | cleared

/-- An event loop, where the flows opened on it are, and what was done. -/
structure Ledger (V : ValueTypes) (ω : Type) where
  loop : EventLoop V ω
  docks : List Dock
  entries : List (Entry V)

namespace Ledger

def act (service : TimedService V ω) (ledger : Ledger V ω) : Deed V → Ledger V ω
  | .openFlow =>
    match Executor.loopback.openFlow ledger.loop with
    | .error _ => ledger
    | .ok (dock, loop) => ⟨loop, ledger.docks ++ [dock], ledger.entries ++ [.opened]⟩
  | .ask k ask =>
    match ledger.docks[k]? with
    | none => { ledger with entries := ledger.entries ++ [.missed k ask] }
    | some dock =>
      let (call, loop) := (EventLoop.flow service .caller dock).make ledger.loop ask
      { ledger with loop, entries := ledger.entries ++ [.called k call] }
  | .readJournal =>
    { ledger with entries := ledger.entries ++ [.read ledger.loop.journal.toList] }
  | .clearJournal =>
    { ledger with loop := ledger.loop.clearJournal, entries := ledger.entries ++ [.cleared] }

/-- The ledger after so many deeds, none of the flows being open at first. -/
def after (service : TimedService V ω) (loop : EventLoop V ω) (deeds : List (Deed V)) :
    Ledger V ω :=
  deeds.foldl (act service) ⟨loop, [], []⟩

end Ledger

/-! ### What entries tell -/

namespace Entry

def deed : Entry V → Deed V
  | opened => .openFlow
  | called k call => .ask k call.ask
  | missed k ask => .ask k ask
  | read _ => .readJournal
  | cleared => .clearJournal

def opens : Entry V → Bool
  | opened => true
  | _ => false

def clears : Entry V → Bool
  | cleared => true
  | _ => false

/-- The call made on a flow. -/
def callOn? (k : ℕ) : Entry V → Option (FlowCall V FlowError)
  | called j call => if j = k then some call else none
  | _ => none

/-- The submission taken, with the flow that took it. -/
def taken? : Entry V → Option (ℕ × Submission V)
  | called k call => call.taken?.map (k, ·)
  | _ => none

end Entry

/-- The number of flows opened. -/
def openedIn (entries : List (Entry V)) : ℕ := entries.countP Entry.opens

def callsOn (k : ℕ) (entries : List (Entry V)) : List (FlowCall V FlowError) :=
  entries.filterMap (Entry.callOn? k)

def closedIn (k : ℕ) (entries : List (Entry V)) : Bool := (callsOn k entries).any FlowCall.closes

/-- The submissions that a flow took, in order. -/
def takenBy (k : ℕ) (entries : List (Entry V)) : List (Submission V) :=
  (callsOn k entries).filterMap FlowCall.taken?

/-- The replies collected on a flow, in order. -/
def collectedOn (k : ℕ) (entries : List (Entry V)) : List (Reply V) :=
  (callsOn k entries).filterMap FlowCall.reply?

/-- The submissions that were taken by any flow, in order. -/
def takenIn (entries : List (Entry V)) : List (ℕ × Submission V) :=
  entries.filterMap Entry.taken?

/-- What the journal holds, if it held some routes at first: the routes of what was taken since it
was cleared. -/
def journalIn (routes : List Route) (entries : List (Entry V)) : List Route :=
  (if entries.any Entry.clears then [] else routes) ++
    (takenIn (entries.rtakeWhile fun entry ↦ !entry.clears)).map (·.2.route)

/-- The replies to submissions, one after the other, and the state the service is left in. -/
def serve (service : Service V ω) (w : ω) :
    List (ℕ × Submission V) → List (ℕ × Reply V) × ω
  | [] => ([], w)
  | (k, submission) :: more =>
    let (outcome, w) := service submission w
    let (replies, w) := serve service w more
    ((k, submission.settle outcome) :: replies, w)

/-- What belongs to one flow. -/
def ofFlow {A : Type} (k : ℕ) (tagged : List (ℕ × A)) : List A :=
  (tagged.filter (·.1 = k)).map Prod.snd

section Told

variable (service : TimedService V ω) (loop : EventLoop V ω) (k : ℕ) (entries : List (Entry V))

/-- What came of everything that was taken, on an event loop that was such at first. -/
def servedIn : List (ℕ × Reply V) × ω :=
  serve (service loop.clock) loop.service (takenIn entries)

/-- The replies to what a flow took. -/
def dueOn : List (Reply V) := ofFlow k (servedIn service loop entries).1

/-- Whether a flow takes a submission. -/
def admissionTo : Except FlowError Unit :=
  if closedIn k entries then .error (.loopback .closed) else .ok ()

/-- The reply to the oldest submission whose reply was not collected. -/
def nextOn : Except FlowError (Reply V) :=
  match (dueOn service loop k entries)[(collectedOn k entries).length]? with
  | none => .error (.loopback .nothingPending)
  | some reply => .ok reply

/-- A call with the answer that the entries before it make it have. -/
def answerOn : Ask V → FlowCall V FlowError
  | .ready => .ready (.ready (admissionTo k entries))
  | .dispatch submission => .dispatch submission (admissionTo k entries)
  | .flush => .flush (.ready (.ok ()))
  | .close => .close (.ready (.ok ()))
  | .reply => .reply (.ready (nextOn service loop k entries))

/-- An entry is what the entries before it make it. -/
def Entry.Follows : Entry V → Prop
  | opened | cleared => True
  | called k call => k < openedIn entries ∧ call = answerOn service loop k entries call.ask
  | missed k _ => openedIn entries ≤ k
  | read routes => routes = journalIn loop.journal.toList entries

end Told

/-! ### One more entry -/

theorem openedIn_concat (entries : List (Entry V)) (entry : Entry V) :
    openedIn (entries ++ [entry]) = openedIn entries + if entry.opens then 1 else 0 := by
  simp [openedIn, List.countP_append, List.countP_singleton]

theorem callsOn_concat (k : ℕ) (entries : List (Entry V)) (entry : Entry V) :
    callsOn k (entries ++ [entry]) = callsOn k entries ++ (entry.callOn? k).toList := by
  rcases h : entry.callOn? k with _ | call <;> simp [callsOn, h]

theorem takenIn_concat (entries : List (Entry V)) (entry : Entry V) :
    takenIn (entries ++ [entry]) = takenIn entries ++ entry.taken?.toList := by
  rcases h : entry.taken? with _ | taken <;> simp [takenIn, h]

theorem journalIn_concat (routes : List Route) (entries : List (Entry V)) (entry : Entry V) :
    journalIn routes (entries ++ [entry]) =
      if entry.clears then [] else
        journalIn routes entries ++ (entry.taken?.map (·.2.route)).toList := by
  unfold journalIn
  rw [List.rtakeWhile_concat]
  by_cases hclears : entry.clears = true
  · simp [hclears, takenIn]
  · rcases htaken : entry.taken? with _ | taken <;>
      simp [hclears, takenIn_concat, htaken]

theorem serve_concat (service : Service V ω) (w : ω) (taken : List (ℕ × Submission V))
    (submission? : Option (ℕ × Submission V)) :
    serve service w (taken ++ submission?.toList) =
      ((serve service w taken).1 ++ (submission?.map fun (k, submission) ↦
          (k, submission.settle (service submission (serve service w taken).2).1)).toList,
        submission?.elim (serve service w taken).2 fun (_, submission) ↦
          (service submission (serve service w taken).2).2) := by
  induction taken generalizing w with
  | nil => rcases submission? with _ | ⟨k, submission⟩ <;> rfl
  | cons entry taken ih => simp [serve, ih]

theorem servedIn_concat (service : TimedService V ω) (loop : EventLoop V ω)
    (entries : List (Entry V)) (entry : Entry V) :
    servedIn service loop (entries ++ [entry]) =
      ((servedIn service loop entries).1 ++ (entry.taken?.map fun (k, submission) ↦
          (k, submission.settle (service loop.clock submission
            (servedIn service loop entries).2).1)).toList,
        entry.taken?.elim (servedIn service loop entries).2 fun (_, submission) ↦
          (service loop.clock submission (servedIn service loop entries).2).2) := by
  rw [servedIn, takenIn_concat, serve_concat]
  rfl

theorem dueOn_called (service : TimedService V ω) (loop : EventLoop V ω)
    (entries : List (Entry V)) (k : ℕ) (call : FlowCall V FlowError) :
    dueOn service loop k (entries ++ [.called k call]) =
      dueOn service loop k entries ++ (call.taken?.map fun submission ↦ submission.settle
        (service loop.clock submission (servedIn service loop entries).2).1).toList := by
  rw [dueOn, servedIn_concat]
  rcases htaken : call.taken? with _ | submission <;> simp [dueOn, ofFlow, Entry.taken?, htaken]

/-- An entry that is no call on a flow does not change what is due on it. -/
theorem dueOn_concat_of_callOn?_eq_none (service : TimedService V ω) (loop : EventLoop V ω)
    (entries : List (Entry V)) {k : ℕ} {entry : Entry V} (hentry : entry.callOn? k = none) :
    dueOn service loop k (entries ++ [entry]) = dueOn service loop k entries := by
  rw [dueOn, servedIn_concat]
  cases entry with
  | called j call =>
    have hjk : j ≠ k := by
      rintro rfl
      simp [Entry.callOn?] at hentry
    rcases htaken : call.taken? with _ | submission <;>
      simp [dueOn, ofFlow, Entry.taken?, htaken, hjk]
  | _ => simp [dueOn, Entry.taken?]

/-- Every reply has the ticket of its submission. -/
theorem serve_tickets (service : Service V ω) (w : ω) (taken : List (ℕ × Submission V)) (k : ℕ) :
    (ofFlow k (serve service w taken).1).map Reply.ticket =
      (ofFlow k taken).map Submission.ticket := by
  induction taken generalizing w with
  | nil => rfl
  | cons entry taken ih =>
    obtain ⟨j, submission⟩ := entry
    have hticket (outcome : Except Failure Response) :
        (submission.settle outcome).ticket = submission.ticket :=
      congrArg Reply.ticket (submission.settle_eq outcome)
    have hmore := ih (service submission w).2
    by_cases hjk : j = k <;> simp_all [ofFlow, serve]

theorem ofFlow_takenIn (k : ℕ) (entries : List (Entry V)) :
    ofFlow k (takenIn entries) = takenBy k entries := by
  induction entries using List.reverseRecOn with
  | nil => rfl
  | append_singleton entries entry ih =>
    simp only [ofFlow, takenBy] at ih
    simp only [ofFlow, takenBy, takenIn_concat, callsOn_concat, List.filter_append, List.map_append,
      List.filterMap_append, ih]
    cases entry with
    | called j call =>
      by_cases hjk : j = k <;> rcases htaken : call.taken? with _ | submission <;>
        simp [Entry.taken?, Entry.callOn?, hjk, htaken]
    | _ => simp [Entry.taken?, Entry.callOn?]

/-! ### Calls on a line -/

/-- What a line does with a call, along with the journal and the service. -/
def Line.make (service : Service V ω) (line : Line V) (journal : Array Route) (w : ω) :
    Ask V → FlowCall V FlowError × Line V × Array Route × ω
  | .ready => (.ready (.ready (line.ready.mapError .loopback)), line, journal, w)
  | .dispatch submission =>
    let (outcome, line, journal, w) := line.dispatch service submission journal w
    (.dispatch submission (outcome.mapError .loopback), line, journal, w)
  | .flush => (.flush (.ready (.ok ())), line, journal, w)
  | .close => (.close (.ready (.ok ())), line.close, journal, w)
  | .reply =>
    let (outcome, line) := line.collect
    (.reply (.ready (outcome.mapError .loopback)), line, journal, w)

section Arrays

variable {A : Type} {xs : Array A} {i : ℕ} {a : A}

theorem setIfInBounds_of_getElem? (h : xs[i]? = some a) : xs.setIfInBounds i a = xs := by
  obtain ⟨hi, rfl⟩ := Array.getElem?_eq_some_iff.mp h
  rw [Array.setIfInBounds, dif_pos hi, Array.set_getElem_self]

theorem modify_of_getElem? (h : xs[i]? = some a) (f : A → A) :
    xs.modify i f = xs.setIfInBounds i (f a) := by
  have hi : i < xs.size := (Array.getElem?_eq_some_iff.mp h).1
  apply Array.ext_getElem?
  intro j
  rw [Array.getElem?_modify, Array.getElem?_setIfInBounds, if_pos hi]
  by_cases hij : i = j
  · subst hij
    simp [h]
  · simp [hij]

end Arrays

/-- A call on a flow concerns its line, the journal and the service. -/
theorem make_line (service : TimedService V ω) {loop : EventLoop V ω} {index : ℕ} {line : Line V}
    (hline : loop.lines[index]? = some line) (ask : Ask V) :
    (EventLoop.flow service .caller (.line index)).make loop ask =
      match line.make (service loop.clock) loop.journal loop.service ask with
      | (call, line, journal, w) =>
        (call,
          { loop with lines := loop.lines.setIfInBounds index line, journal, service := w }) := by
  have hself := setIfInBounds_of_getElem? hline
  cases ask with
  | ready => simp [Flow.make, EventLoop.flow, EventLoop.pollReady, Line.make, hline, hself]
  | dispatch submission =>
    simp [Flow.make, EventLoop.flow, EventLoop.startDispatch, Line.make, hline]
  | flush => simp [Flow.make, EventLoop.flow, EventLoop.pollFlush, Line.make, hself]
  | close =>
    simp [Flow.make, EventLoop.flow, EventLoop.pollClose, Line.make, modify_of_getElem? hline]
  | reply => simp [Flow.make, EventLoop.flow, EventLoop.pollReply, Line.make, hline]

/-- What a call brings and what it leaves behind add up. -/
theorem Line.make_accounts (service : Service V ω) (line : Line V) (journal : Array Route) (w : ω)
    (ask : Ask V) :
    match line.make service journal w ask with
    | (call, line', journal', w') =>
      line'.closed = (line.closed || call.closes) ∧
        call.reply?.toList ++ line'.replies =
          line.replies ++ (call.taken?.map fun submission ↦
            submission.settle (service submission w).1).toList ∧
        journal'.toList = journal.toList ++ (call.taken?.map Submission.route).toList ∧
        w' = call.taken?.elim w fun submission ↦ (service submission w).2 := by
  cases ask with
  | ready => simp [make, FlowCall.closes, FlowCall.reply?, FlowCall.taken?]
  | dispatch submission =>
    by_cases hclosed : line.closed = true <;>
      simp [make, dispatch, hclosed, Except.mapError, FlowCall.closes, FlowCall.reply?,
        FlowCall.taken?]
  | flush => simp [make, FlowCall.closes, FlowCall.reply?, FlowCall.taken?]
  | close => simp [make, Line.close, FlowCall.closes, FlowCall.reply?, FlowCall.taken?]
  | reply =>
    rcases hreplies : line.replies with _ | ⟨reply, replies⟩ <;>
      simp [make, collect, hreplies, Except.mapError, FlowCall.closes, FlowCall.reply?,
        FlowCall.taken?]

/-- A line is as the entries say: what was collected and what waits is what is due. -/
structure Line.Accords (service : TimedService V ω) (loop : EventLoop V ω) (k : ℕ)
    (entries : List (Entry V)) (line : Line V) : Prop where
  closed : line.closed = closedIn k entries
  replies : collectedOn k entries ++ line.replies = dueOn service loop k entries

section Accords

variable {service : TimedService V ω} {loop : EventLoop V ω} {k : ℕ} {entries : List (Entry V)}
  {line : Line V}

/-- A line gives the answer that the entries make it give. -/
theorem Line.Accords.make_fst (hline : line.Accords service loop k entries)
    (journal : Array Route) (w : ω) (ask : Ask V) :
    (line.make (service loop.clock) journal w ask).1 = answerOn service loop k entries ask := by
  cases ask with
  | ready =>
    by_cases h : closedIn k entries = true <;>
      simp [Line.make, Line.ready, answerOn, admissionTo, hline.closed, h, Except.mapError]
  | dispatch submission =>
    by_cases h : closedIn k entries = true <;>
      simp [Line.make, Line.dispatch, answerOn, admissionTo, hline.closed, h, Except.mapError]
  | flush => rfl
  | close => rfl
  | reply =>
    rcases hreplies : line.replies with _ | ⟨reply, replies⟩ <;>
      simp [Line.make, Line.collect, answerOn, nextOn, ← hline.replies, hreplies, Except.mapError]

theorem Line.Accords.called (hline : line.Accords service loop k entries)
    {call : FlowCall V FlowError} {line' : Line V}
    (hclosed : line'.closed = (line.closed || call.closes))
    (hreplies : call.reply?.toList ++ line'.replies =
      line.replies ++ (call.taken?.map fun submission ↦ submission.settle
        (service loop.clock submission (servedIn service loop entries).2).1).toList) :
    line'.Accords service loop k (entries ++ [.called k call]) := by
  constructor
  · rw [hclosed, hline.closed, closedIn, closedIn, callsOn_concat]
    simp [Entry.callOn?]
  · rw [dueOn_called, ← hline.replies, List.append_assoc, ← hreplies, collectedOn, collectedOn,
      callsOn_concat]
    rcases hreply : call.reply? with _ | reply <;> simp [Entry.callOn?, hreply]

/-- What is no call on a flow leaves its line as it is. -/
theorem Line.Accords.concat (hline : line.Accords service loop k entries) {entry : Entry V}
    (hentry : entry.callOn? k = none) : line.Accords service loop k (entries ++ [entry]) := by
  have hcalls : callsOn k (entries ++ [entry]) = callsOn k entries := by
    simp [callsOn_concat, hentry]
  constructor
  · rw [closedIn, hcalls, hline.closed, closedIn]
  · rw [collectedOn, hcalls, dueOn_concat_of_callOn?_eq_none service loop entries hentry,
      ← hline.replies, collectedOn]

end Accords

theorem answerOn_ask (service : TimedService V ω) (loop : EventLoop V ω) (k : ℕ)
    (entries : List (Entry V)) (ask : Ask V) :
    (answerOn service loop k entries ask).ask = ask := by
  cases ask <;> rfl

/-! ### Ledgers are kept -/

/-- What the entries of a ledger say is so. -/
structure Ledger.Kept (service : TimedService V ω) (loop : EventLoop V ω) (ledger : Ledger V ω) :
    Prop where
  clock : ledger.loop.clock = loop.clock
  docks : ledger.docks =
    (List.range (openedIn ledger.entries)).map fun k ↦ .line (loop.lines.size + k)
  size : ledger.loop.lines.size = loop.lines.size + openedIn ledger.entries
  lines : ∀ k < openedIn ledger.entries, ∃ line,
    ledger.loop.lines[loop.lines.size + k]? = some line ∧
      line.Accords service loop k ledger.entries
  journal : ledger.loop.journal.toList = journalIn loop.journal.toList ledger.entries
  state : ledger.loop.service = (servedIn service loop ledger.entries).2
  follows : ∀ past entry later, ledger.entries = past ++ entry :: later →
    entry.Follows service loop past

variable {service : TimedService V ω} {loop : EventLoop V ω} {ledger : Ledger V ω}

namespace Ledger.Kept

/-- The flows opened are the lines from the first free one on. -/
theorem dock_iff (hkept : ledger.Kept service loop) {k : ℕ} {dock : Dock} :
    ledger.docks[k]? = some dock ↔
      k < openedIn ledger.entries ∧ dock = .line (loop.lines.size + k) := by
  rw [hkept.docks]
  by_cases hk : k < openedIn ledger.entries <;> simp [hk, eq_comm]

theorem follows_concat (hkept : ledger.Kept service loop) {entry : Entry V}
    (hentry : entry.Follows service loop ledger.entries) :
    ∀ past entry' later, ledger.entries ++ [entry] = past ++ entry' :: later →
      entry'.Follows service loop past := by
  intro past entry' later hsplit
  rcases later.eq_nil_or_concat' with rfl | ⟨later, last, rfl⟩
  · obtain ⟨rfl, hsame⟩ := List.append_inj' hsplit rfl
    obtain rfl : entry = entry' := by simpa using hsame
    exact hentry
  · refine hkept.follows past entry' later ?_
    rw [← List.cons_append, ← List.append_assoc] at hsplit
    exact (List.append_inj' hsplit rfl).1

/-- A flow that is not open was not called. -/
theorem callsOn_eq_nil (hkept : ledger.Kept service loop) {k : ℕ}
    (hk : openedIn ledger.entries ≤ k) : callsOn k ledger.entries = [] := by
  refine List.filterMap_eq_nil_iff.mpr fun entry hentry ↦ ?_
  obtain ⟨past, later, hsplit⟩ := List.append_of_mem hentry
  have hfollows := hkept.follows past entry later hsplit
  cases entry with
  | called j call =>
    have hless : openedIn past ≤ openedIn ledger.entries := by
      simp [hsplit, openedIn, List.countP_append]
    have hjk : j ≠ k := by
      have hj : j < openedIn past := hfollows.1
      omega
    simp [Entry.callOn?, hjk]
  | _ => rfl

theorem dueOn_eq_nil (hkept : ledger.Kept service loop) {k : ℕ}
    (hk : openedIn ledger.entries ≤ k) : dueOn service loop k ledger.entries = [] := by
  have htickets := serve_tickets (service loop.clock) loop.service (takenIn ledger.entries) k
  rw [ofFlow_takenIn, takenBy, hkept.callsOn_eq_nil hk] at htickets
  exact List.map_eq_nil_iff.mp htickets

theorem fresh_accords (hkept : ledger.Kept service loop) {k : ℕ}
    (hk : openedIn ledger.entries ≤ k) : Line.fresh.Accords service loop k ledger.entries := by
  constructor
  · rw [closedIn, hkept.callsOn_eq_nil hk]
    rfl
  · rw [collectedOn, hkept.callsOn_eq_nil hk, hkept.dueOn_eq_nil hk]
    rfl

theorem openFlow (hkept : ledger.Kept service loop) :
    (ledger.act service .openFlow).Kept service loop := by
  have hopened : openedIn (ledger.entries ++ [.opened]) = openedIn ledger.entries + 1 :=
    openedIn_concat _ _
  refine ⟨hkept.clock, ?_, ?_, ?_, ?_, ?_, hkept.follows_concat trivial⟩
  · simp [act, Executor.openFlow, hopened, List.range_succ, hkept.docks, hkept.size]
  · simp [act, Executor.openFlow, hopened, hkept.size, Nat.add_assoc]
  · intro k hk
    simp only [act, Executor.openFlow, hopened] at hk ⊢
    rcases Nat.lt_succ_iff_lt_or_eq.mp hk with hk | rfl
    · obtain ⟨line, hline, haccords⟩ := hkept.lines k hk
      refine ⟨line, ?_, haccords.concat rfl⟩
      rw [Array.getElem?_push, if_neg (by rw [hkept.size]; omega), hline]
    · refine ⟨.fresh, ?_, (hkept.fresh_accords le_rfl).concat rfl⟩
      rw [Array.getElem?_push, if_pos hkept.size.symm]
  · simp [act, Executor.openFlow, journalIn_concat, Entry.clears, Entry.taken?, hkept.journal]
  · simp [act, Executor.openFlow, servedIn_concat, Entry.taken?, hkept.state]

/-- An entry that concerns no flow, and the journal at most. -/
theorem note (hkept : ledger.Kept service loop) (entry : Entry V) (hopens : entry.opens = false)
    (hcall : ∀ k, entry.callOn? k = none) (htaken : entry.taken? = none)
    (hfollows : entry.Follows service loop ledger.entries) {journal : Array Route}
    (hjournal : journal.toList = journalIn loop.journal.toList (ledger.entries ++ [entry])) :
    Kept service loop
      ⟨{ ledger.loop with journal }, ledger.docks, ledger.entries ++ [entry]⟩ := by
  have hopened : openedIn (ledger.entries ++ [entry]) = openedIn ledger.entries := by
    simp [openedIn_concat, hopens]
  refine ⟨hkept.clock, ?_, ?_, ?_, hjournal, ?_, hkept.follows_concat hfollows⟩
  · rw [hopened, hkept.docks]
  · rw [hopened, hkept.size]
  · intro k hk
    rw [hopened] at hk
    obtain ⟨line, hline, haccords⟩ := hkept.lines k hk
    exact ⟨line, hline, haccords.concat (hcall k)⟩
  · rw [servedIn_concat, htaken]
    exact hkept.state

theorem call (hkept : ledger.Kept service loop) {k : ℕ} (hk : k < openedIn ledger.entries)
    (ask : Ask V) : (ledger.act service (.ask k ask)).Kept service loop := by
  obtain ⟨line, hline, haccords⟩ := hkept.lines k hk
  have hanswer := haccords.make_fst ledger.loop.journal ledger.loop.service ask
  have haccounts := line.make_accounts (service loop.clock) ledger.loop.journal
    ledger.loop.service ask
  have hact : ledger.act service (.ask k ask) =
      match line.make (service loop.clock) ledger.loop.journal ledger.loop.service ask with
      | (call, line, journal, w) =>
        ⟨{ ledger.loop with
            lines := ledger.loop.lines.setIfInBounds (loop.lines.size + k) line, journal,
            service := w }, ledger.docks, ledger.entries ++ [.called k call]⟩ := by
    simp only [act, hkept.dock_iff.mpr ⟨hk, rfl⟩, make_line service hline, hkept.clock]
  -- From here on, only what the call brings and leaves behind matters.
  rw [hact]
  generalize line.make (service loop.clock) ledger.loop.journal ledger.loop.service ask = made
    at hanswer haccounts
  obtain ⟨call, line', journal', w'⟩ := made
  obtain ⟨hclosed', hreplies', hjournal', hw'⟩ := haccounts
  replace hanswer : call = answerOn service loop k ledger.entries ask := hanswer
  have hopened : openedIn (ledger.entries ++ [.called k call]) = openedIn ledger.entries := by
    simp [openedIn_concat, Entry.opens]
  refine ⟨hkept.clock, ?_, ?_, ?_, ?_, ?_, hkept.follows_concat ⟨hk, ?_⟩⟩
  · rw [hopened, hkept.docks]
  · rw [hopened, Array.size_setIfInBounds, hkept.size]
  · intro j hj
    rw [hopened] at hj
    by_cases hkj : k = j
    · subst hkj
      rw [hkept.state] at hreplies'
      exact ⟨line', getElem?_setIfInBounds_line hline line', haccords.called hclosed' hreplies'⟩
    · obtain ⟨other, hother, haccords⟩ := hkept.lines j hj
      refine ⟨other, ?_, haccords.concat (by simp [Entry.callOn?, hkj])⟩
      rw [Array.getElem?_setIfInBounds_ne (by omega), hother]
  · rw [journalIn_concat]
    rcases htaken : call.taken? with _ | submission <;>
      simp [Entry.clears, Entry.taken?, hjournal', hkept.journal, htaken]
  · rw [servedIn_concat]
    rcases htaken : call.taken? with _ | submission <;>
      simp [Entry.taken?, hw', htaken, hkept.state]
  · rw [hanswer, answerOn_ask]

/-- Whatever is done, the ledger is kept. -/
theorem act (hkept : ledger.Kept service loop) (deed : Deed V) :
    (ledger.act service deed).Kept service loop := by
  cases deed with
  | openFlow => exact hkept.openFlow
  | ask k ask =>
    by_cases hk : k < openedIn ledger.entries
    · exact hkept.call hk ask
    · have hnone : ledger.docks[k]? = none := by simpa [hkept.docks] using hk
      simp only [Ledger.act, hnone]
      refine hkept.note (.missed k ask) rfl (fun _ ↦ rfl) rfl (Nat.le_of_not_lt hk) ?_
      simp [journalIn_concat, Entry.clears, Entry.taken?, hkept.journal]
  | readJournal =>
    refine hkept.note (.read _) rfl (fun _ ↦ rfl) rfl hkept.journal ?_
    simp [journalIn_concat, Entry.clears, Entry.taken?, hkept.journal]
  | clearJournal =>
    refine hkept.note .cleared rfl (fun _ ↦ rfl) rfl trivial ?_
    simp [journalIn_concat, Entry.clears]

end Ledger.Kept

theorem kept_after (service : TimedService V ω) (loop : EventLoop V ω) (deeds : List (Deed V)) :
    (Ledger.after service loop deeds).Kept service loop := by
  induction deeds using List.reverseRecOn with
  | nil =>
    refine ⟨rfl, rfl, rfl, ?_, ?_, rfl, ?_⟩
    · simp [Ledger.after, openedIn]
    · simp [Ledger.after, journalIn, takenIn]
    · simp [Ledger.after]
  | append_singleton deeds deed ih =>
    rw [Ledger.after, List.foldl_append]
    exact ih.act deed

/-- Every deed has its entry. -/
theorem deeds_after (service : TimedService V ω) (loop : EventLoop V ω) (deeds : List (Deed V)) :
    (Ledger.after service loop deeds).entries.map Entry.deed = deeds := by
  induction deeds using List.reverseRecOn with
  | nil => rfl
  | append_singleton deeds deed ih =>
    rw [Ledger.after, List.foldl_append, ← Ledger.after, List.foldl_cons, List.foldl_nil]
    cases deed with
    | ask k ask =>
      rcases hdock : (Ledger.after service loop deeds).docks[k]? with _ | dock
      · simp [Ledger.act, hdock, ih, Entry.deed]
      · cases ask <;> simp [Ledger.act, hdock, ih, Entry.deed, Flow.make, FlowCall.ask]
    | _ => simp [Ledger.act, Executor.openFlow, ih, Entry.deed]

/-- Whatever is done over a loopback executor, in whatever order and with however many flows, every
deed is answered as the deeds before it make it be. The replies collected on a flow and those that
wait are the replies to what it took, in order, each with the ticket of its submission. The flow has
nothing pending if and only if as many replies were collected as submissions taken. Closing it
leaves the replies that wait alone, and once it is closed it refuses, changes nothing and does not
ask any service. The journal holds the routes of what all flows took since it was cleared, and the
service has answered nothing else. -/
theorem ledger_tells_all (service : TimedService V ω) (loop : EventLoop V ω)
    (deeds : List (Deed V)) :
    let ledger := Ledger.after service loop deeds
    ledger.entries.map Entry.deed = deeds ∧
      (∀ past entry later, ledger.entries = past ++ entry :: later →
        entry.Follows service loop past) ∧
      ledger.docks.length = openedIn ledger.entries ∧
      (∀ k dock, ledger.docks[k]? = some dock →
        ∃ index line, dock = .line index ∧ ledger.loop.lines[index]? = some line ∧
          line.closed = closedIn k ledger.entries ∧
          collectedOn k ledger.entries ++ line.replies = dueOn service loop k ledger.entries ∧
          (dueOn service loop k ledger.entries).map Reply.ticket =
            (takenBy k ledger.entries).map Submission.ticket ∧
          ((EventLoop.pollReply service .caller dock ledger.loop).1 =
              .ready (.error (.loopback .nothingPending)) ↔
            (collectedOn k ledger.entries).length = (takenBy k ledger.entries).length) ∧
          (EventLoop.pollClose .caller dock ledger.loop).2 =
            { ledger.loop with
              lines := ledger.loop.lines.setIfInBounds index { line with closed := true } } ∧
          (closedIn k ledger.entries = true → ∀ (other : TimedService V ω) submission,
            EventLoop.startDispatch other dock submission ledger.loop =
              (.error (.loopback .closed), ledger.loop))) ∧
      ledger.loop.journal.toList = journalIn loop.journal.toList ledger.entries ∧
      ledger.loop.service = (servedIn service loop ledger.entries).2 := by
  intro ledger
  have hkept : ledger.Kept service loop := kept_after service loop deeds
  refine ⟨deeds_after service loop deeds, hkept.follows, by simp [hkept.docks], ?_, hkept.journal,
    hkept.state⟩
  intro k dock hdock
  obtain ⟨hk, rfl⟩ := hkept.dock_iff.mp hdock
  obtain ⟨line, hline, hclosed, hreplies⟩ := hkept.lines k hk
  have htickets : (dueOn service loop k ledger.entries).map Reply.ticket =
      (takenBy k ledger.entries).map Submission.ticket := by
    rw [← ofFlow_takenIn]
    exact serve_tickets _ _ _ k
  refine ⟨_, line, rfl, hline, hclosed, hreplies, htickets, ?_, ?_, ?_⟩
  · have hcount : (collectedOn k ledger.entries).length + line.replies.length =
        (takenBy k ledger.entries).length := by
      simpa [← hreplies] using congrArg List.length htickets
    rcases hwaiting : line.replies with _ | ⟨reply, replies⟩
    · simp [EventLoop.pollReply, hline, Line.collect, hwaiting, Except.mapError, ← hcount]
    · simp [EventLoop.pollReply, hline, Line.collect, hwaiting, Except.mapError, ← hcount]
  · simp [EventLoop.pollClose, Line.close, modify_of_getElem? hline]
  · intro hk other submission
    simp [EventLoop.startDispatch, hline, Line.dispatch, hclosed, hk, Except.mapError,
      setIfInBounds_of_getElem? hline]

/-- A flow is closed before the reply to what it took is collected; then it has nothing pending, and
it takes nothing any more. -/
theorem ledger_tells_all_of_closed :
    let service : TimedService values ℕ := fun _ _ n ↦ (.ok (.ok [n.toUInt8]), n + 1)
    let request : Request (Payload values) :=
      { route := ⟨.get, "/"⟩, decode := fun _ ↦ .ok none, label := "Get" }
    let deeds : List (Deed values) := [.openFlow, .ask 0 (.dispatch ⟨⟨3⟩, request⟩), .ask 0 .close,
      .ask 0 (.dispatch ⟨⟨4⟩, request⟩), .ask 0 .reply]
    let ledger := Ledger.after service (.start 5 fun _ ↦ []) deeds
    ledger.docks[0]? = some (.line 0) ∧ closedIn 0 ledger.entries = true ∧
      (collectedOn 0 ledger.entries).map (·.ticket.number) = [3] ∧
      (EventLoop.pollReply service .caller (.line 0) ledger.loop).1 =
        .ready (.error (.loopback .nothingPending)) ∧
      EventLoop.startDispatch service (.line 0) ⟨⟨5⟩, request⟩ ledger.loop =
        (.error (.loopback .closed), ledger.loop) := by
  intro service request deeds ledger
  have hdock : ledger.docks[0]? = some (.line 0) := rfl
  have hclosed : closedIn 0 ledger.entries = true := rfl
  obtain ⟨index, line, -, -, -, -, -, hpending, -, hrefused⟩ :=
    (ledger_tells_all service (.start 5 fun _ ↦ []) deeds).2.2.2.1 0 (.line 0) hdock
  have hcollected : (collectedOn 0 ledger.entries).map (·.ticket.number) = [3] := by
    decide +kernel
  have hcount : (collectedOn 0 ledger.entries).length = (takenBy 0 ledger.entries).length := by
    decide +kernel
  exact ⟨hdock, hclosed, hcollected, hpending.mpr hcount, hrefused hclosed service _⟩

end Loopback

end Errand
