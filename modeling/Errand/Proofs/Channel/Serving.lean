import Errand.Proofs.Channel.Shop
import Errand.Proofs.EventLoop.Footing
import Errand.Values

/-!
How a worker serves a channel, whatever the client does meanwhile and however long its handler takes
(`Worker.serves_in_order`). The handler is run on the submissions one at a time and in the order of
their coming; their replies reach the client in that order, and nothing is lost as long as somebody
collects; no more than the room there is waits to be collected; the client is not told of an end
before it has everything; and after it has left, the handler is run once more at most.
-/

set_option autoImplicit false

namespace Errand.Worker

open Shop

variable {V : ValueTypes} {τ : Type}

namespace Phase

/-- The submission that the handler is being run on. -/
@[simp] def inHand? : Phase V → Option (Submission V)
  | handling submission _ => some submission
  | next | replying _ | stopped => none

/-- The reply that is being sent. -/
@[simp] def unsent? : Phase V → Option (Reply V)
  | replying reply => some reply
  | next | handling _ _ | stopped => none

/-- How many replies there may be that are neither sent nor to be made. -/
@[simp] def overhang : Phase V → ℕ
  | next | handling _ _ => 0
  | replying _ | stopped => 1

end Phase

/-- What is different about a phase from one time to the next. -/
structure Cue where
  instant : ℕ
  /-- The handler has slept for as long as it takes. -/
  rested : Bool
  /-- What the handler comes to, if it comes to an end. -/
  result : Except Failure Response

/-- A phase of the worker of a shop. -/
def tend (latency : Option Duration) (cue : Cue) (phase : Phase V) (shop : Shop V τ) :
    (Move × Phase V) × Shop V τ :=
  advance (Shop.desk cue.instant cue.rested)
    (fun submission shop ↦ (cue.result, shop.deal (.handled submission cue.result))) latency phase
    shop

/-- What a phase of the worker amounts to. -/
inductive Tended : Phase V × Shop V τ → Phase V × Shop V τ → Prop where
  | takes (submission : Submission V) (waiting : List (Submission V)) (wakeUp : ℕ)
    (shop : Shop V τ) (hsubmissions : shop.channel.submissions = submission :: waiting) :
    Tended (.next, shop) (.handling submission wakeUp,
      { shop with channel := { shop.channel with submissions := waiting } }.deal
        (.taken submission))
  | handles (submission : Submission V) (wakeUp : ℕ) (result : Except Failure Response)
    (shop : Shop V τ) :
    Tended (.handling submission wakeUp, shop)
      (.replying (submission.settle result), shop.deal (.handled submission result))
  | sends (reply : Reply V) (shop : Shop V τ) (hcollecting : shop.channel.collecting = true)
    (hroom : shop.channel.replies.length < shop.channel.capacity) :
    Tended (.replying reply, shop) (.next, { shop with channel := { shop.channel with
      replies := shop.channel.replies ++ [reply] } }.deal (.sent reply))
  | returns (reply : Reply V) (shop : Shop V τ) (hcollecting : shop.channel.collecting = false) :
    Tended (.replying reply, shop)
      (.stopped, { shop.deal (.returned reply) with channel := shop.channel.dropWorker })
  | ends (shop : Shop V τ) (hsubmissions : shop.channel.submissions = [])
    (hsending : shop.channel.sending = false) :
    Tended (.next, shop) (.stopped, { shop with channel := shop.channel.dropWorker })
  | rests (shop : Shop V τ) :
    Tended (.stopped, shop) (.stopped, { shop with channel := shop.channel.dropWorker })

/-- What comes of the handler of a shop is settled. -/
theorem handle_desk (cue : Cue) (submission : Submission V) (shop : Shop V τ) :
    handle (Shop.desk cue.instant cue.rested)
        (fun submission shop ↦ (cue.result, shop.deal (.handled submission cue.result))) submission
        shop =
      ((.again, .replying (submission.settle cue.result)),
        shop.deal (.handled submission cue.result)) := by
  cases cue.result <;> simp [handle]

/-- Where the handler takes no time, a phase takes a submission and handles it. -/
theorem tended (latency : Option Duration) (cue : Cue) (phase : Phase V) (shop : Shop V τ) :
    Relation.ReflTransGen Tended (phase, shop)
      (Shop.next (tend latency) (.inr cue) (phase, shop)) := by
  cases phase with
  | next =>
    rcases hsubmissions : shop.channel.submissions with _ | ⟨submission, waiting⟩
    · have htake := fun instant rested ↦
        desk_next_nil instant rested hsubmissions
      rcases hsending : shop.channel.sending
      · refine .single ?_
        simpa [Shop.next, Shop.outcome, tend, advance, htake, hsending] using
          Tended.ends shop hsubmissions hsending
      · simpa [Shop.next, Shop.outcome, tend, advance, htake, hsending] using
          Relation.ReflTransGen.refl
    · have htake := fun instant rested ↦
        desk_next_cons instant rested hsubmissions
      cases latency with
      | none =>
        refine .tail (.single (.takes submission waiting 0 shop hsubmissions)) ?_
        simpa [Shop.next, Shop.outcome, tend, advance, htake, handle_desk] using
          Tended.handles submission 0 cue.result _
      | some latency =>
        refine .single ?_
        simpa [Shop.next, Shop.outcome, tend, advance, htake] using
          Tended.takes submission waiting _ shop hsubmissions
  | handling submission wakeUp =>
    rcases hrested : cue.rested
    · simpa [Shop.next, Shop.outcome, tend, advance, hrested] using Relation.ReflTransGen.refl
    · have hhandle := handle_desk cue submission shop
      rw [hrested] at hhandle
      refine .single ?_
      simpa [Shop.next, Shop.outcome, tend, advance, hrested, hhandle] using
        Tended.handles submission wakeUp cue.result shop
  | replying reply =>
    rcases hcollecting : shop.channel.collecting
    · refine .single ?_
      simpa [Shop.next, Shop.outcome, tend, advance, desk_reply_left hcollecting, deal] using
        Tended.returns reply shop hcollecting
    · by_cases hroom : shop.channel.replies.length < shop.channel.capacity
      · refine .single ?_
        simpa [Shop.next, Shop.outcome, tend, advance, desk_reply_room hcollecting hroom] using
          Tended.sends reply shop hcollecting hroom
      · simpa [Shop.next, Shop.outcome, tend, advance, desk_reply_full hcollecting hroom] using
          Relation.ReflTransGen.refl
  | stopped => exact .single (.rests shop)

/-! ### The tasks of an event loop -/

section Task

variable {ω : Type} (link : ℕ) (latency : Option Duration)

/-- What a phase of a serving task has come to is among what a phase of the worker of a shop may
come to, the channel of the task being that of the shop. -/
def Resembles (state : Phase V × Shop V τ) (outcome : (Move × Phase V) × EventLoop V ω) : Prop :=
  ∃ shop', Relation.ReflTransGen Tended state (outcome.1.2, shop') ∧
    (outcome.1.1.leave (.serve link latency outcome.1.2) outcome.2).floor.channels link =
      some shop'.channel

/-- The handler of a serving task leaves the channels as they are. -/
theorem handle_ask (service : TimedService V ω) (who : Party) (submission : Submission V)
    (loop : EventLoop V ω) :
    ∃ result loop', handle (EventLoop.desk who link) (EventLoop.ask service) submission loop =
        ((.again, .replying (submission.settle result)), loop') ∧
      loop'.floor.channels = loop.floor.channels := by
  rcases hresult : service loop.clock submission loop.service with ⟨cause | response, w⟩
  · exact ⟨.error cause, { loop with service := w }.log (.failed submission.ticket cause),
      by simp [handle, EventLoop.ask, EventLoop.desk, hresult], rfl⟩
  · exact ⟨.ok response, { loop with service := w },
      by simp [handle, EventLoop.ask, hresult], rfl⟩

variable {link latency}

/-- A task that stops drops its end of the channel. -/
theorem Resembles.stopping {state : Phase V × Shop V τ} {shop : Shop V τ} {channel : Channel V}
    (hstep : Tended state (.stopped, shop)) (hshop : shop.channel = channel.dropWorker)
    {loop : EventLoop V ω} (hchannel : loop.floor.channels link = some channel) :
    Resembles link latency state ((.stopped, .stopped), loop) := by
  refine ⟨_, .single hstep, ?_⟩
  rw [Move.leave, Job.release, EventLoop.dropWorker_floor hchannel, Floor.setChannel_channels_self,
    hshop]

/-- A phase of a serving task of an event loop amounts to what a phase of the worker of a shop
does. -/
theorem advance_resembles (service : TimedService V ω) (who : Party) (phase : Phase V)
    {loop : EventLoop V ω} {shop : Shop V τ}
    (hchannel : loop.floor.channels link = some shop.channel) :
    Resembles link latency (phase, shop)
      (advance (EventLoop.desk who link) (EventLoop.ask service) latency phase loop) := by
  have hput : ∀ {loop' : EventLoop V ω} {channel : Channel V},
      loop'.floor = loop.floor.setChannel link channel → loop'.floor.channels link = some channel :=
    fun hfloor ↦ by rw [hfloor, Floor.setChannel_channels_self]
  have hstalled := fun {α : Type} (operation : EventLoop V ω → Poll α × EventLoop V ω)
    (hstep : ¬ 0 < loop.allowance) ↦
      EventLoop.paced_stalled who operation (Nat.eq_zero_of_not_pos hstep)
  have hdeferred : (loop.defer who).floor.channels link = some shop.channel := by
    rw [EventLoop.defer_floor, hchannel]
  cases phase with
  | next =>
    by_cases hstep : 0 < loop.allowance
    · obtain ⟨loop', hnext, hfloor⟩ := EventLoop.desk_next hchannel who hstep
      rcases hsubmissions : shop.channel.submissions with _ | ⟨submission, waiting⟩
      · have htake : shop.channel.take =
            (if shop.channel.sending then .pending else .ready none, shop.channel) := by
          simp [Channel.take, hsubmissions]
        rw [htake] at hnext hfloor
        rcases hsending : shop.channel.sending <;>
          simp only [advance, hnext, hsending, if_true, Bool.false_eq_true, if_false]
        · exact .stopping (.ends shop hsubmissions hsending) rfl (hput hfloor)
        · exact ⟨shop, .refl, hput hfloor⟩
      · have htake : shop.channel.take =
            (.ready (some submission), { shop.channel with submissions := waiting }) := by
          simp [Channel.take, hsubmissions]
        rw [htake] at hnext hfloor
        have htakes := fun wakeUp ↦ Tended.takes submission waiting wakeUp shop hsubmissions
        cases latency with
        | none =>
          obtain ⟨result, loop'', hhandle, hchannels⟩ := handle_ask link service who submission
            ((EventLoop.desk who link).log (.serving submission.ticket submission.route) loop')
          simp only [advance, hnext, hhandle]
          refine ⟨_, .tail (.single (htakes 0)) (.handles submission 0 result _), ?_⟩
          rw [Move.leave, hchannels]
          exact hput hfloor
        | some latency =>
          simp only [advance, hnext]
          exact ⟨_, .single (htakes _), hput hfloor⟩
    · have hnext : (EventLoop.desk who link).next loop = (.pending, loop.defer who) :=
        hstalled _ hstep
      simp only [advance, hnext]
      exact ⟨shop, .refl, hdeferred⟩
  | handling submission wakeUp =>
    have hslept : ((EventLoop.desk who link).sleepUntil wakeUp loop).2.floor = loop.floor :=
      EventLoop.sleepUntil_floor wakeUp
    rcases hcome : (EventLoop.desk who link).sleepUntil wakeUp loop with ⟨_ | _, loop'⟩ <;>
      rw [hcome] at hslept
    · simp only [advance, hcome]
      exact ⟨shop, .refl, hslept ▸ hchannel⟩
    · obtain ⟨result, loop'', hhandle, hchannels⟩ := handle_ask link service who submission loop'
      simp only [advance, hcome, hhandle]
      refine ⟨_, .single (.handles submission wakeUp result shop), ?_⟩
      rw [Move.leave, hchannels, hslept]
      exact hchannel
  | replying reply =>
    by_cases hstep : 0 < loop.allowance
    · obtain ⟨loop', hreply, hfloor⟩ := EventLoop.desk_reply hchannel who reply hstep
      rcases hcollecting : shop.channel.collecting
      · have hsend : shop.channel.send reply = (.ready false, shop.channel) := by
          simp [Channel.send, hcollecting]
        rw [hsend] at hreply hfloor
        simp only [advance, hreply]
        exact .stopping (.returns reply shop hcollecting) rfl (hput hfloor)
      · by_cases hroom : shop.channel.replies.length < shop.channel.capacity
        · have hsend : shop.channel.send reply = (.ready true,
              { shop.channel with replies := shop.channel.replies ++ [reply] }) := by
            simp [Channel.send, hcollecting, hroom]
          rw [hsend] at hreply hfloor
          simp only [advance, hreply]
          exact ⟨_, .single (.sends reply shop hcollecting hroom), hput hfloor⟩
        · have hsend : shop.channel.send reply = (.pending, shop.channel) := by
            simp [Channel.send, hcollecting, hroom]
          rw [hsend] at hreply hfloor
          simp only [advance, hreply]
          exact ⟨shop, .refl, hput hfloor⟩
    · have hreply : (EventLoop.desk who link).reply reply loop = (.pending, loop.defer who) :=
        hstalled _ hstep
      simp only [advance, hreply]
      exact ⟨shop, .refl, hdeferred⟩
  | stopped => exact .stopping (.rests shop) rfl hchannel

end Task

/-! ### What every step keeps -/

/-- The books of a shop with so much room. -/
structure Tidy (buffer : ℕ) (state : Phase V × Shop V τ) : Prop where
  capacity : state.2.channel.capacity = buffer
  room : state.2.channel.replies.length ≤ buffer
  /-- What was taken has been handled, or is being handled. -/
  started : state.2.all Deal.taken? =
    (state.2.all Deal.handled?).map Prod.fst ++ state.1.inHand?.toList
  /-- What was accepted has been taken, or is waiting; only when nobody collects may some of it have
  been lost. -/
  queued : ∃ lost, state.2.all Deal.accepted? =
    state.2.all Deal.taken? ++ state.2.channel.submissions ++ lost ∧
      (state.2.channel.collecting = true ∨ state.2.channel.working = true → lost = [])
  /-- What was handled has been collected, or is waiting, or is being sent; only when nobody
  collects may some of it have been dropped. -/
  replied : ∃ dropped, state.2.all Deal.collected? ++ state.2.channel.replies ++ dropped ++
      state.1.unsent?.toList =
        (state.2.all Deal.handled?).map (fun (submission, result) ↦ submission.settle result) ∧
    (state.2.channel.collecting = true → dropped = [])
  backlog : (state.2.all Deal.handled?).length ≤
    (state.2.all Deal.collected?).length + buffer + state.1.overhang
  stopped : state.2.channel.working = false ↔ state.1 = .stopped
  gone : state.2.channel.working = false → state.2.channel.submissions = []

theorem tidy_opened (buffer : ℕ) (behind : τ) :
    Tidy buffer (.next (V := V), Shop.opened buffer behind) where
  capacity := rfl
  room := Nat.zero_le _
  started := rfl
  queued := ⟨[], rfl, fun _ ↦ rfl⟩
  replied := ⟨[], rfl, fun _ ↦ rfl⟩
  backlog := Nat.zero_le _
  stopped := by simp [Shop.opened, Channel.fresh]
  gone := nofun

namespace Tidy

variable {buffer : ℕ} {phase : Phase V} {shop shop' : Shop V τ}

theorem visited (htidy : Tidy buffer (phase, shop)) (hvisited : shop.Visited shop') :
    Tidy buffer (phase, shop') := by
  have hstarted := htidy.started
  have hbacklog := htidy.backlog
  obtain ⟨lost, hqueued, hlost⟩ := htidy.queued
  obtain ⟨dropped, hreplied, hdropped⟩ := htidy.replied
  cases hvisited with
  | nothing => exact htidy
  | dispatched submission hsending hworking =>
    obtain rfl := hlost (Or.inr hworking)
    exact {
      capacity := htidy.capacity
      room := htidy.room
      started := by simpa using hstarted
      queued := ⟨[], by simp_all, fun _ ↦ rfl⟩
      replied := ⟨dropped, by simpa using hreplied, hdropped⟩
      backlog := by simpa using hbacklog
      stopped := htidy.stopped
      gone := fun hgone ↦ by simp [hworking] at hgone }
  | collected reply waiting hcollecting hreplies =>
    have hroom := htidy.room
    rw [hreplies, List.length_cons] at hroom
    exact {
      capacity := htidy.capacity
      room := Nat.le_of_succ_le hroom
      started := by simpa using hstarted
      queued := ⟨lost, by simpa using hqueued, hlost⟩
      replied := ⟨dropped, by simpa [hreplies] using hreplied, hdropped⟩
      backlog := by simp at hbacklog ⊢; omega
      stopped := htidy.stopped
      gone := htidy.gone }
  | closed => exact { htidy with }
  | left =>
    exact {
      capacity := htidy.capacity
      room := Nat.zero_le _
      started := hstarted
      queued := ⟨lost, hqueued, fun hworking ↦ hlost (Or.inr (hworking.resolve_left nofun))⟩
      replied := ⟨shop.channel.replies ++ dropped,
        by simpa [Channel.dropCollecting] using hreplied, nofun⟩
      backlog := hbacklog
      stopped := htidy.stopped
      gone := htidy.gone }

/-- A worker that holds nothing, and for which nothing waits, may go: nothing is lost by it. -/
theorem dismissed (htidy : Tidy buffer (phase, shop)) (hphase : phase = .next ∨ phase = .stopped)
    (hsubmissions : shop.channel.submissions = []) :
    Tidy buffer (.stopped, { shop with channel := shop.channel.dropWorker }) := by
  obtain ⟨hinHand, hunsent, hoverhang⟩ :
      phase.inHand? = none ∧ phase.unsent? = none ∧ phase.overhang ≤ 1 := by
    rcases hphase with rfl | rfl <;> simp
  obtain ⟨lost, hqueued, hlost⟩ := htidy.queued
  have hstarted := htidy.started
  have hreplied := htidy.replied
  rw [hinHand] at hstarted
  rw [hunsent] at hreplied
  exact {
    capacity := htidy.capacity
    room := htidy.room
    started := hstarted
    queued := ⟨lost, by simpa [Channel.dropWorker, hsubmissions] using hqueued,
      fun hheld ↦ hlost (hheld.imp_right nofun)⟩
    replied := hreplied
    backlog := htidy.backlog.trans (Nat.add_le_add_left hoverhang _)
    stopped := iff_of_true rfl rfl
    gone := fun _ ↦ rfl }

theorem tended {state state' : Phase V × Shop V τ} (htidy : Tidy buffer state)
    (htended : Tended state state') : Tidy buffer state' := by
  have hstarted := htidy.started
  have hbacklog := htidy.backlog
  obtain ⟨lost, hqueued, hlost⟩ := htidy.queued
  obtain ⟨dropped, hreplied, hdropped⟩ := htidy.replied
  have hworking : ∀ {phase}, state.1 = phase → phase ≠ .stopped →
      ¬ state.2.channel.working = false := fun hphase hgoes hgone ↦
    hgoes (hphase.symm.trans (htidy.stopped.mp hgone))
  cases htended with
  | takes submission waiting wakeUp shop hsubmissions =>
    have hgoes := hworking rfl nofun
    exact {
      capacity := htidy.capacity
      room := htidy.room
      started := by simpa using hstarted
      queued := ⟨lost, by simpa [hsubmissions] using hqueued, hlost⟩
      replied := ⟨dropped, by simpa using hreplied, hdropped⟩
      backlog := by simpa using hbacklog
      stopped := iff_of_false hgoes nofun
      gone := fun hgone ↦ absurd hgone hgoes }
  | handles submission wakeUp result shop =>
    have hgoes := hworking rfl nofun
    exact {
      capacity := htidy.capacity
      room := htidy.room
      started := by simpa using hstarted
      queued := ⟨lost, by simpa using hqueued, hlost⟩
      replied := ⟨dropped, by
        simp at hreplied ⊢
        simp [← hreplied], hdropped⟩
      backlog := by simp at hbacklog ⊢; omega
      stopped := iff_of_false hgoes nofun
      gone := fun hgone ↦ absurd hgone hgoes }
  | sends reply shop hcollecting hroom =>
    have hgoes := hworking rfl nofun
    have hcapacity : shop.channel.capacity = buffer := htidy.capacity
    obtain rfl := hdropped hcollecting
    exact {
      capacity := htidy.capacity
      room := by simp; omega
      started := by simpa using hstarted
      queued := ⟨lost, by simpa using hqueued, hlost⟩
      replied := ⟨[], by simpa using hreplied, fun _ ↦ rfl⟩
      backlog := by
        have hlength := congrArg List.length hreplied
        simp at hlength ⊢
        omega
      stopped := iff_of_false hgoes nofun
      gone := fun hgone ↦ absurd hgone hgoes }
  | returns reply shop hcollecting =>
    exact {
      capacity := htidy.capacity
      room := htidy.room
      started := by simpa using hstarted
      queued := ⟨shop.channel.submissions ++ lost,
        by simpa [Channel.dropWorker] using hqueued,
        by simp [Channel.dropWorker, hcollecting]⟩
      replied := ⟨dropped ++ [reply], by simpa [Channel.dropWorker] using hreplied,
        by simp [Channel.dropWorker, hcollecting]⟩
      backlog := by simpa using hbacklog
      stopped := iff_of_true rfl rfl
      gone := fun _ ↦ rfl }
  | ends shop hsubmissions hsending => exact htidy.dismissed (Or.inl rfl) hsubmissions
  | rests shop => exact htidy.dismissed (Or.inr rfl) (htidy.gone (htidy.stopped.mpr rfl))

/-- A client that is told of an end has a reply to everything that it dispatched: the worker went
because nothing more was to come. -/
theorem all_collected {state : Phase V × Shop V τ} (htidy : Tidy buffer state)
    (hcollecting : state.2.channel.collecting = true)
    (hover : state.2.channel.collect.1 = .ready none) :
    state.2.all Deal.collected? =
        (state.2.all Deal.handled?).map (fun (submission, result) ↦ submission.settle result) ∧
      (state.2.all Deal.handled?).map Prod.fst = state.2.all Deal.accepted? := by
  obtain ⟨lost, hqueued, hlost⟩ := htidy.queued
  obtain ⟨dropped, hreplied, hdropped⟩ := htidy.replied
  obtain rfl := hlost (Or.inl hcollecting)
  obtain rfl := hdropped hcollecting
  obtain ⟨hreplies, hworking⟩ :
      state.2.channel.replies = [] ∧ state.2.channel.working = false := by
    rcases hreplies : state.2.channel.replies with _ | ⟨reply, waiting⟩
    · rcases hworking : state.2.channel.working
      · exact ⟨rfl, rfl⟩
      · simp [Channel.collect, hreplies, hworking] at hover
    · simp [Channel.collect, hreplies] at hover
  have hphase := htidy.stopped.mp hworking
  have htaken := htidy.started
  rw [htidy.gone hworking, List.append_nil, List.append_nil] at hqueued
  constructor
  · simpa [hphase, hreplies] using hreplied
  · simpa [hphase, hqueued] using htaken.symm

end Tidy

/-! ### After the client has left -/

/-- How many submissions may yet be taken once nobody collects. -/
@[simp] def Phase.freedom : Phase V → ℕ
  | next => 1
  | handling _ _ | replying _ | stopped => 0

/-- Nobody collects, and no more than so many submissions will have been taken in the end. -/
def Deserted (most : ℕ) (state : Phase V × Shop V τ) : Prop :=
  state.2.channel.collecting = false ∧ (state.2.all Deal.taken?).length + state.1.freedom ≤ most

namespace Deserted

variable {most : ℕ}

theorem visited {phase : Phase V} {shop shop' : Shop V τ} (hdeserted : Deserted most (phase, shop))
    (hvisited : shop.Visited shop') : Deserted most (phase, shop') := by
  obtain ⟨hcollecting, hmost⟩ := hdeserted
  cases hvisited with
  | nothing => exact ⟨hcollecting, hmost⟩
  | dispatched submission hsending hworking => exact ⟨hcollecting, by simpa using hmost⟩
  | collected reply waiting hcollects hreplies => exact absurd hcollects (by simp_all)
  | closed => exact ⟨hcollecting, hmost⟩
  | left => exact ⟨rfl, hmost⟩

theorem tended {state state' : Phase V × Shop V τ} (hdeserted : Deserted most state)
    (htended : Tended state state') : Deserted most state' := by
  obtain ⟨hcollecting, hmost⟩ := hdeserted
  cases htended with
  | takes submission waiting wakeUp shop hsubmissions =>
    exact ⟨hcollecting, by simpa using hmost⟩
  | handles submission wakeUp result shop => exact ⟨hcollecting, by simpa using hmost⟩
  | sends reply shop hcollects hroom => exact absurd hcollects (by simp_all)
  | returns reply shop hleft => exact ⟨hcollecting, by simpa using hmost⟩
  | ends shop hsubmissions hsending => exact ⟨hcollecting, Nat.le_of_succ_le hmost⟩
  | rests shop => exact ⟨hcollecting, hmost⟩

end Deserted

/-- The handler is run on one more submission at most. -/
theorem taken_after_leaving (latency : Option Duration) {state : Phase V × Shop V τ}
    (hleft : state.2.channel.collecting = false) (later : List (Client V ⊕ Cue)) :
    ((Shop.after (tend latency) later state).2.all Deal.taken?).length ≤
      (state.2.all Deal.taken?).length + 1 := by
  have hfreedom : state.1.freedom ≤ 1 := by cases state.1 <;> simp
  have hdeserted : Deserted ((state.2.all Deal.taken?).length + 1)
      (Shop.after (tend latency) later state) :=
    Shop.after_induction_of_steps (tended latency) (fun h ↦ h.visited) (fun h ↦ h.tended)
      ⟨hleft, Nat.add_le_add_left hfreedom _⟩ later
  exact Nat.le_of_add_right_le hdeserted.2

/-- In whatever order a client and a worker go on at a channel, and whatever comes of the handler
and when: the handler is run on what was accepted, in that order and on one submission at a time;
what has been collected, what waits and what is being sent are the replies to what was handled, in
order and under the tickets of the submissions, but for those that waited when the client left; no
more replies wait than there is room for, so that no more than one more than that were handled and
not collected; as long as the client collects or the worker works, nothing that was accepted gets
lost, and a client is told of an end only when it has a reply to all of it; and once nobody collects
any more, the handler is run on one more submission at most. -/
theorem serves_in_order (latency : Option Duration) (buffer : ℕ) (behind : τ)
    (acts later : List (Client V ⊕ Cue)) :
    let start : Phase V × Shop V τ := (.next, Shop.opened buffer behind)
    let state := Shop.after (tend latency) acts start
    let state' := Shop.after (tend latency) (acts ++ later) start
    let channel := state.2.channel
    let accepted := state.2.all Deal.accepted?
    let taken := state.2.all Deal.taken?
    let handled := state.2.all Deal.handled?
    let collected := state.2.all Deal.collected?
    let replies := handled.map fun (submission, result) ↦ submission.settle result
    (taken <+: accepted ∧ taken = handled.map Prod.fst ++ state.1.inHand?.toList ∧
        (channel.collecting = true ∨ channel.working = true →
          accepted = taken ++ channel.submissions)) ∧
      ((∃ dropped, collected ++ channel.replies ++ dropped ++ state.1.unsent?.toList = replies ∧
          (channel.collecting = true → dropped = [])) ∧
        replies.map Reply.ticket = handled.map (·.1.ticket)) ∧
      (channel.replies.length ≤ buffer ∧ handled.length ≤ collected.length + buffer + 1) ∧
      (channel.collecting = true → channel.collect.1 = .ready none →
        collected = replies ∧ handled.map Prod.fst = accepted) ∧
      (channel.collecting = false → (state'.2.all Deal.taken?).length ≤ taken.length + 1) := by
  intro start state state' channel accepted taken handled collected replies
  have htidy : Tidy buffer state :=
    Shop.after_induction_of_steps (tended latency) (fun h ↦ h.visited) (fun h ↦ h.tended)
      (tidy_opened buffer behind) acts
  obtain ⟨lost, hqueued, hlost⟩ := htidy.queued
  have hfirst : taken <+: accepted := ⟨_, (List.append_assoc ..).symm.trans hqueued.symm⟩
  have hkept : channel.collecting = true ∨ channel.working = true →
      accepted = taken ++ channel.submissions := fun hheld ↦ by simpa [hlost hheld] using hqueued
  have htickets : replies.map Reply.ticket = handled.map (·.1.ticket) := by
    rw [List.map_map]
    refine List.map_congr_left fun (submission, result) _ ↦ ?_
    cases result <;> rfl
  have hoverhang : state.1.overhang ≤ 1 := by cases state.1 <;> simp
  have hbacklog : handled.length ≤ collected.length + buffer + 1 :=
    htidy.backlog.trans (Nat.add_le_add_left hoverhang _)
  have hlater : state' = Shop.after (tend latency) later state := Shop.after_append _ _
  exact ⟨⟨hfirst, htidy.started, hkept⟩, ⟨htidy.replied, htickets⟩, ⟨htidy.room, hbacklog⟩,
    htidy.all_collected, fun hleft ↦ hlater ▸ taken_after_leaving latency hleft later⟩

/-- Three submissions come at once, their replies one by one, and then the end is told. -/
theorem serves_in_order_of_three :
    let request : Request (Payload values) :=
      { route := ⟨.get, "/"⟩, decode := fun _ ↦ .ok none, label := "Get" }
    let dispatch n : Client values ⊕ Cue := .inl (.dispatch ⟨⟨n⟩, request⟩)
    let work : Client values ⊕ Cue := .inr ⟨0, true, .ok (.ok [])⟩
    let collect : Client values ⊕ Cue := .inl .collect
    let acts := [dispatch 0, dispatch 1, dispatch 2, .inl .close, work, work, work, work, collect,
      work, work, collect, work, work, collect]
    let state := Shop.after (tend none) acts (.next, Shop.opened 1 ())
    (state.2.channel.collecting = true ∧ state.2.channel.collect.1 = .ready none) ∧
      (state.2.all Deal.collected?).map Reply.ticket = [⟨0⟩, ⟨1⟩, ⟨2⟩] ∧
        (state.2.all Deal.handled?).map Prod.fst = state.2.all Deal.accepted? := by
  intro request dispatch work collect acts state
  have hcollecting : state.2.channel.collecting = true := by decide +kernel
  have hended : state.2.channel.collect.1 = .ready none := by rfl
  have htickets : (state.2.all Deal.collected?).map Reply.ticket = [⟨0⟩, ⟨1⟩, ⟨2⟩] := by
    decide +kernel
  obtain ⟨-, -, -, hover, -⟩ := serves_in_order none 1 () acts []
  exact ⟨⟨hcollecting, hended⟩, htickets, (hover hcollecting hended).2⟩

end Errand.Worker
