import Errand.Proofs.Flow.Faithful

/-!
What a run has shown depends on the answers it got, and on nothing else about its flow
(`Course.shown_of_told`): as long as no call has broken, it is what the evaluation of the plan shows
at first against whatever gives these answers.

Up to there, the flow is faithful to such an answerer: it is charged as the past says that belongs
to the calls made so far (`Retells`), and counts as lapsed where its calls stray from that past.
-/

set_option autoImplicit false

namespace Errand

variable {V : ValueTypes} {S σ ε ω α : Type}

/-- What an answerer answers. -/
def Answerer.answering (answerer : Answerer V ω) : Answering V ω :=
  fun submission w answer w' ↦ answerer submission w = (answer, w')

/-! ### Exchanges that are told -/

section Told

variable {answers : Answering V ω} {exchanges later : List (Submission V × Answer (Payload V))}
  {w w' w'' : ω}

theorem Told.split (htold : Told answers (exchanges ++ later) w w'') :
    ∃ w', Told answers exchanges w w' ∧ Told answers later w' w'' := by
  induction exchanges generalizing w with
  | nil => exact ⟨w, rfl, htold⟩
  | cons exchange exchanges ih =>
    obtain ⟨between, hfirst, hrest⟩ := htold
    obtain ⟨w', hexchanges, hlater⟩ := ih hrest
    exact ⟨w', ⟨between, hfirst, hexchanges⟩, hlater⟩

/-- An answerer is left in one state by the same exchanges. -/
theorem Told.unique {answerer : Answerer V ω} (htold : Told answerer.answering exchanges w w')
    (htold' : Told answerer.answering exchanges w w'') : w' = w'' := by
  induction exchanges generalizing w with
  | nil => exact htold.symm.trans htold'
  | cons exchange exchanges ih =>
    obtain ⟨between, hfirst, hlater⟩ := htold
    obtain ⟨between', hfirst', hlater'⟩ := htold'
    obtain rfl : between = between' := congrArg Prod.snd (hfirst.symm.trans hfirst')
    exact ih hlater hlater'

/-- Gives the answers of a list, one after the other. -/
def recite : Answerer V (List (Answer (Payload V)))
  | _, [] => (.filtered, [])
  | _, answer :: answers => (answer, answers)

/-- Whatever the exchanges, something gives their answers. -/
theorem told_recite (exchanges : List (Submission V × Answer (Payload V))) :
    Told (Answerer.answering recite) exchanges (exchanges.map Prod.snd) [] := by
  induction exchanges with
  | nil => rfl
  | cons exchange exchanges ih => exact ⟨_, rfl, ih⟩

end Told

section Past

variable {before later past : List (Happening V S ε)}

/-- Exchanges of the past stay what they are. -/
theorem prefix_exchangesIn_append (later : List (Happening V S ε))
    (hlength : (answersIn before).length ≤ (dispatchedIn before).length) :
    exchangesIn before <+: exchangesIn (before ++ later) := by
  have hzip : exchangesIn before =
      ((dispatchedIn before).take (answersIn before).length).zip (answersIn before) := by
    rw [exchangesIn, List.zip_eq_zip_take_min, min_eq_right hlength, List.take_length]
  have hanswers : answersIn (before ++ later) = answersIn before ++ answersIn later :=
    List.filterMap_append
  have hdispatched : dispatchedIn (before ++ later) =
      (dispatchedIn before).take (answersIn before).length ++
        ((dispatchedIn before).drop (answersIn before).length ++ dispatchedIn later) := by
    rw [← List.append_assoc, List.take_append_drop, dispatchedIn_append]
  rw [hzip, exchangesIn, hanswers, hdispatched, List.zip_append (by simpa using hlength)]
  exact List.prefix_append _ _

theorem Charge.Fits.length_le {charge : Charge V} (hfits : charge.Fits past) :
    (answersIn past).length ≤ (dispatchedIn past).length := by
  cases charge with
  | idle => exact hfits.2.le
  | serving submission =>
    obtain ⟨-, before, hbefore, hlength⟩ := hfits
    simp [hbefore, hlength]
  | closed => exact hfits.2.1.le

/-- Where no call is made, the charge and the exchanges stay what they are. -/
theorem Charge.Fits.append_uncalled {charge : Charge V} (hfits : charge.Fits past)
    (hcalls : callsIn later = []) :
    charge.Fits (past ++ later) ∧ exchangesIn (past ++ later) = exchangesIn past := by
  induction later using List.reverseRecOn with
  | nil => exact ⟨by rwa [List.append_nil], by rw [List.append_nil]⟩
  | append_singleton later happening ih =>
    rw [callsIn_append, List.append_eq_nil_iff] at hcalls
    obtain ⟨hlater, hexchanges⟩ := ih hcalls.1
    have hsilent : happening.Silent := by
      rcases happening with call | _ | _
      · exact absurd hcalls.2 (by simp [callsIn])
      · exact ⟨rfl, by simp⟩
      · exact ⟨rfl, by simp⟩
    rw [← List.append_assoc]
    exact ⟨hlater.append hsilent, (exchangesIn_append_silent hsilent).trans hexchanges⟩

/-- The first call of what has happened, with what came before it. -/
theorem exists_of_callsIn_eq_cons {call : FlowCall V ε} {calls : List (FlowCall V ε)}
    (hcalls : callsIn past = call :: calls) :
    ∃ before later, past = before ++ .call call :: later ∧ callsIn before = [] := by
  induction past with
  | nil => cases hcalls
  | cons happening past ih =>
    rcases happening with call' | ⟨step, value⟩ | outcome
    · obtain ⟨rfl, -⟩ := List.cons_eq_cons.mp hcalls
      exact ⟨[], past, rfl, rfl⟩
    · obtain ⟨before, later, rfl, hbefore⟩ := ih hcalls
      exact ⟨.resumed step value :: before, later, rfl, hbefore⟩
    · obtain ⟨before, later, rfl, hbefore⟩ := ih hcalls
      exact ⟨.returned outcome :: before, later, rfl, hbefore⟩

end Past

/-! ### A flow on its way through the past -/

/-- A recording flow is on its way through the past, and charged so. -/
def Retells (answerer : Answerer V ω) (past : List (Happening V S ε)) (w₀ : ω) (charge : Charge V)
    (w : ω) (s : σ × List (FlowCall V ε)) : Prop :=
  ∃ before later, past = before ++ later ∧ callsIn before = s.2 ∧ charge.Fits before ∧
    Told answerer.answering (exchangesIn before) w₀ w

/-- Other calls were made of a recording flow than in the past, or more of them. -/
def Strayed (past : List (Happening V S ε)) (s : σ × List (FlowCall V ε)) : Prop :=
  ¬ s.2 <+: callsIn past

theorem strayed_preserved (flow : Flow V σ ε) (past : List (Happening V S ε)) :
    flow.recorded.Preserves (Strayed past) where
  ready := fun _ hs ↦ mt (List.prefix_append _ _).trans hs
  dispatch := fun _ _ hs ↦ mt (List.prefix_append _ _).trans hs
  flush := fun _ hs ↦ mt (List.prefix_append _ _).trans hs
  close := fun _ hs ↦ mt (List.prefix_append _ _).trans hs
  reply := fun _ hs ↦ mt (List.prefix_append _ _).trans hs

/-- The calls that lead a flow to a state lead it there with a record of them. -/
theorem Flow.Path.recorded {flow : Flow V σ ε} {s s' : σ} {calls : List (FlowCall V ε)}
    (hpath : flow.Path s calls s') (record : List (FlowCall V ε)) :
    flow.recorded.Path (s, record) calls (s', record ++ calls) := by
  induction hpath generalizing record with
  | nil s => simpa using Flow.Path.nil _
  | @cons s t s' call calls hmake _ ih =>
    have hmake' : flow.recorded.make (s, record) call.ask = (call, t, record ++ [call]) := by
      cases call with
      | dispatch submission answer =>
        obtain ⟨hcall, rfl⟩ := Prod.mk.inj hmake
        obtain ⟨-, rfl⟩ := FlowCall.dispatch.inj hcall
        rfl
      | _ =>
        obtain ⟨⟨rfl⟩, rfl⟩ := Prod.mk.inj hmake
        rfl
    exact .cons hmake' (by simpa using ih (record ++ [call]))

/-- A call of a recording flow that fares well as long as it does not stray is answered: with every
call fewer are left of the past. -/
theorem answered_of_fares {past : List (Happening V S ε)} {still : σ × List (FlowCall V ε) → Prop}
    {after : α → σ × List (FlowCall V ε) → Prop}
    {poll : σ × List (FlowCall V ε) → Poll (Except ε α) × σ × List (FlowCall V ε)}
    (hfares : ∀ s, still s → Fares (Strayed past) still after (poll s))
    (hcalls : ∀ s, ∃ t call, (poll s).2 = (t, s.2 ++ [call])) {s : σ × List (FlowCall V ε)}
    (hs : still s) : Answered (Strayed past) poll s := by
  refine answered_of_measure hfares (fun s ↦ (callsIn past).length + 1 - s.2.length) (fun s ↦ ?_) hs
  obtain ⟨t, call, hcall⟩ := hcalls s
  rw [hcall]
  by_cases hkept : s.2 ++ [call] <+: callsIn past
  · have hlength := hkept.length_le
    rw [List.length_append, List.length_singleton] at hlength ⊢
    exact Or.inr (by omega)
  · exact Or.inl hkept

section Retells

variable {answerer : Answerer V ω} {past : List (Happening V S ε)} {w₀ w₁ w : ω} {charge : Charge V}
  {s s' : σ} {record : List (FlowCall V ε)} {call : FlowCall V ε}

/-- The next call, where the flow does not stray, is the next one of the past. -/
theorem Retells.next (hretells : Retells answerer past w₀ charge w (s, record))
    (hkept : record ++ [call] <+: callsIn past) :
    ∃ before later, past = before ++ .call call :: later ∧ callsIn before = record ∧
      charge.Fits before ∧ Told answerer.answering (exchangesIn before) w₀ w := by
  obtain ⟨before, later, rfl, rfl, hfits, htold⟩ := hretells
  obtain ⟨more, hmore⟩ := hkept
  rw [callsIn_append, List.append_assoc, List.append_cancel_left_eq] at hmore
  obtain ⟨between, later', rfl, hbetween⟩ := exists_of_callsIn_eq_cons hmore.symm
  obtain ⟨hfits', hexchanges⟩ := hfits.append_uncalled hbetween
  exact ⟨before ++ between, later', by simp, by simp [callsIn_append, hbetween], hfits',
    hexchanges ▸ htold⟩

/-- A call that is no part of an exchange leaves what is told as it is. -/
theorem retells_of_silent {before later : List (Happening V S ε)} {charge' : Charge V}
    (hpast : past = before ++ .call call :: later) (hcalls : callsIn before = record)
    (hfits : charge'.Fits (before ++ [.call call]))
    (htold : Told answerer.answering (exchangesIn before) w₀ w)
    (hsilent : (Happening.call (S := S) call).Silent) :
    Retells answerer past w₀ charge' w (s', record ++ [call]) := by
  refine ⟨before ++ [.call call], later, by simp [hpast], ?_, hfits, ?_⟩
  · rw [callsIn_append, hcalls]
    rfl
  · rwa [exchangesIn_append_silent hsilent]

variable (hintact : Intact past)
include hintact

/-- A call that is no part of an exchange fares well until the flow strays. -/
theorem Retells.fares (form : Poll (Except ε Unit) → FlowCall V ε) {charge' : Charge V}
    (hsilent : ∀ answer, (Happening.call (S := S) (form answer)).Silent)
    (hbreach : ∀ e expected, (form (.ready (.error e))).breach? expected ≠ none)
    (hdone : ∀ before : List (Happening V S ε), charge.Fits before →
      charge'.Fits (before ++ [.call (form (.ready (.ok ())))]))
    (hretells : Retells answerer past w₀ charge w (s, record)) (answer : Poll (Except ε Unit)) :
    Fares (Strayed past) (Retells answerer past w₀ charge w)
      (fun _ ↦ Retells answerer past w₀ charge' w) (answer, s', record ++ [form answer]) := by
  by_cases hkept : record ++ [form answer] <+: callsIn past
  · obtain ⟨before, later, hpast, hcalls, hfits, htold⟩ := hretells.next hkept
    rcases answer with _ | e | _
    · exact Or.inr
        (retells_of_silent hpast hcalls (hfits.append (hsilent _)) htold (hsilent _))
    · exact absurd (hintact before _ later hpast _ rfl) (hbreach e _)
    · exact Or.inr (retells_of_silent hpast hcalls (hdone before hfits) htold (hsilent _))
  · rcases answer with _ | e | _
    · exact Or.inl hkept
    · exact hkept
    · exact Or.inl hkept

variable (htold : Told answerer.answering (exchangesIn past) w₀ w₁)
include htold

/-- A flow that does not stray replies to the submission it is charged with as the answerer does. -/
theorem Retells.replied {submission : Submission V}
    (hretells : Retells answerer past w₀ (.serving submission) w (s, record))
    (answer : Poll (Except ε (Reply V))) :
    Fares (Strayed past) (Retells answerer past w₀ (.serving submission) w)
      (fun reply s' ↦ reply.ticket = submission.ticket ∧ ∃ w',
        answerer.answering submission w reply.answer w' ∧ Retells answerer past w₀ .idle w' s')
      (answer, s', record ++ [.reply answer]) := by
  by_cases hkept : record ++ [.reply answer] <+: callsIn past
  · obtain ⟨before, later, hpast, hcalls, hfits, hbefore⟩ := hretells.next hkept
    have hbreach := hintact before _ later hpast _ rfl
    rcases answer with _ | e | ⟨ticket, answer⟩
    · have hsilent : (Happening.call (S := S) (FlowCall.reply (V := V) (ε := ε) .pending)).Silent :=
        ⟨rfl, by simp⟩
      exact Or.inr (retells_of_silent hpast hcalls (hfits.append hsilent) hbefore hsilent)
    · cases hbreach
    · obtain ⟨⟨later', hflight⟩, -⟩ := id hfits
      obtain rfl : ticket = submission.ticket := by
        simpa [FlowCall.breach?, hflight.lastTicket] using hbreach
      -- What is told of the past is told of the exchanges up to this one.
      have hidle := hfits.replied answer
      obtain ⟨more, hmore⟩ := prefix_exchangesIn_append later hidle.length_le
      rw [List.append_assoc, List.singleton_append, ← hpast, hfits.exchangesIn_replied,
        List.append_assoc] at hmore
      rw [← hmore] at htold
      obtain ⟨w', hbefore', w'', hanswer, -⟩ := htold.split
      obtain rfl := hbefore.unique hbefore'
      refine Or.inr ⟨rfl, w'', hanswer, before ++ [.call (.reply (.ready (.ok _)))], later,
        by simp [hpast], by rw [callsIn_append, hcalls]; rfl, hidle, ?_⟩
      rw [hfits.exchangesIn_replied]
      exact hbefore.concat hanswer
  · rcases answer with _ | e | reply
    · exact Or.inl hkept
    · exact hkept
    · exact Or.inl hkept

/-- Until it strays from the past, a flow is faithful to whatever gave the answers of the past. -/
theorem faithful_retelling (flow : Flow V σ ε) :
    flow.recorded.Faithful answerer.answering (Strayed past) (Retells answerer past w₀) where
  lapses := strayed_preserved flow past
  ready := fun hretells ↦ hretells.fares hintact .ready (fun _ ↦ ⟨rfl, by simp⟩)
    (fun _ _ ↦ by simp [FlowCall.breach?]) (fun _ hfits ↦ hfits.append ⟨rfl, by simp⟩) _
  dispatch := fun {w s} submission hretells ↦ by
    by_cases hkept : s.2 ++ [.dispatch submission (flow.startDispatch submission s.1).1] <+:
        callsIn past
    · obtain ⟨before, later, hpast, hcalls, hfits, hbefore⟩ := hretells.next hkept
      have hbreach := hintact before _ later hpast _ rfl
      right
      rw [Flow.recorded_startDispatch]
      rcases hstart : (flow.startDispatch submission s.1).1 with e | _
      · rw [hstart] at hbreach
        cases hbreach
      · rw [hstart] at hpast
        refine ⟨rfl, before ++ [.call (.dispatch submission (.ok ()))], later, by simp [hpast],
          by rw [callsIn_append, hcalls]; rfl, hfits.dispatched submission, ?_⟩
        rwa [exchangesIn_dispatched hfits.2]
    · exact Or.inl hkept
  flush := fun hretells ↦ hretells.fares hintact .flush (fun _ ↦ ⟨rfl, by simp⟩)
    (fun _ _ ↦ by simp [FlowCall.breach?]) (fun _ hfits ↦ hfits.append ⟨rfl, by simp⟩) _
  reply := fun hretells ↦ hretells.replied hintact htold _
  close := fun hretells ↦ hretells.fares hintact .close (fun _ ↦ ⟨rfl, by simp⟩)
    (fun _ _ ↦ by simp [FlowCall.breach?])
    (fun _ hfits ↦ by
      have hidle : Charge.idle.Fits (_ ++ [Happening.call (.close (.ready (.ok ())))]) :=
        hfits.append ⟨rfl, by simp⟩
      exact ⟨hidle.1, hidle.2, by simp⟩) _

/-- A flow that does not stray keeps nobody waiting for ever. -/
theorem lively_retelling (flow : Flow V σ ε) :
    flow.recorded.Lively (Strayed past) (Retells (S := S) answerer past w₀) := by
  have hfaithful := faithful_retelling hintact htold flow
  exact {
    ready := answered_of_fares (fun _ ↦ hfaithful.ready) fun _ ↦ ⟨_, _, rfl⟩
    flush := answered_of_fares (fun _ ↦ hfaithful.flush) fun _ ↦ ⟨_, _, rfl⟩
    reply := answered_of_fares (fun _ ↦ hfaithful.reply) fun _ ↦ ⟨_, _, rfl⟩
    close := answered_of_fares (fun _ ↦ hfaithful.close) fun _ ↦ ⟨_, _, rfl⟩ }

end Retells

/-- What a run has shown before a call, when none had broken, is what the evaluation of its plan
shows at first, against whatever gives the answers that came. -/
theorem Course.shown_of_told [Resumes V S] (flow : Flow V σ ε) (plan : Plan V S) (s : σ) (n : ℕ)
    {past later : List (Happening V S ε)} {call : FlowCall V ε}
    (hhistory : (after flow plan s n).history = past ++ .call call :: later) (hintact : Intact past)
    {answerer : Answerer V ω} {w w' : ω} (htold : Told answerer.answering (exchangesIn past) w w') :
    ∃ depth, traceOf past <+: (account answerer depth plan w).trace := by
  have hfaithful := faithful_retelling hintact htold flow
  have hserves := hfaithful.serves_covered (lively_retelling hintact htold flow) (fun h ↦ h)
    (s := (s, [])) ⟨[], past, rfl, rfl, ⟨trivial, rfl⟩, rfl⟩
  have hpath := path_after flow plan s n
  rw [hhistory, callsIn_append] at hpath
  obtain ⟨t, hpast, -⟩ := hpath.split
  obtain ⟨held, hcovered⟩ := (strayed_preserved flow past).path_covered answerer
    (hpast.recorded []) (fun hstrayed ↦ hstrayed List.prefix_rfl) (w, none)
  obtain ⟨call₀, later₀, hhistory₀⟩ := history_of_path _ flow hhistory hcovered
  exact (run_shows_account hserves plan).2.2 n past ⟨_, hhistory₀.symm⟩

end Errand
