import Mathlib.Data.List.Basic
import Mathlib.Logic.Relation
import Errand.Channel
import Errand.Desk

/-!
A channel in any order of events. The client dispatches, collects, closes its sending half and drops
its collecting half whenever it likes, and between any two of these steps whoever works at the other
end may go through any number of phases (`Shop.next`, `Shop.after`). The worker goes about it at a
desk over the channel (`Shop.desk`); at what instant, and whether what it sleeps for has come, is
different every time. What comes about is kept as a list of deals.

What a step of the client amounts to is one of a few things (`Shop.Visited`).
-/

set_option autoImplicit false

namespace Errand

/-- What may come about at a channel. -/
inductive Deal (V : ValueTypes) where
  | accepted (submission : Submission V)
  | collected (reply : Reply V)
  | taken (submission : Submission V)
  /-- The handler came to an end with a submission. -/
  | handled (submission : Submission V) (result : Except Failure Response)
  /-- A submission was handed to the flow behind. -/
  | attempted (submission : Submission V)
  /-- The flow behind gave a reply. -/
  | answered (reply : Reply V)
  | sent (reply : Reply V)
  /-- Nobody collects the reply. -/
  | returned (reply : Reply V)

namespace Deal

variable {V : ValueTypes}

@[simp] def accepted? : Deal V → Option (Submission V)
  | accepted submission => some submission
  | _ => none

@[simp] def collected? : Deal V → Option (Reply V)
  | collected reply => some reply
  | _ => none

@[simp] def taken? : Deal V → Option (Submission V)
  | taken submission => some submission
  | _ => none

@[simp] def handled? : Deal V → Option (Submission V × Except Failure Response)
  | handled submission result => some (submission, result)
  | _ => none

@[simp] def attempted? : Deal V → Option (Submission V)
  | attempted submission => some submission
  | _ => none

@[simp] def sent? : Deal V → Option (Reply V)
  | sent reply => some reply
  | _ => none

/-- What the worker did, rather than the client. -/
@[simp] def worked? : Deal V → Option (Deal V)
  | accepted _ | collected _ => none
  | deal => some deal

end Deal

/-- What a client may do. -/
inductive Client (V : ValueTypes) where
  | dispatch (submission : Submission V)
  | collect
  /-- Closes the sending half, or drops it. -/
  | close
  /-- Drops the collecting half. -/
  | leave

/-- A channel, the state of what lies behind its worker, and the deals up to now. -/
structure Shop (V : ValueTypes) (τ : Type) where
  channel : Channel V
  behind : τ
  deals : List (Deal V)

namespace Shop

variable {V : ValueTypes} {τ Φ κ α : Type}

def opened (buffer : ℕ) (behind : τ) : Shop V τ := ⟨.fresh buffer, behind, []⟩

def deal (deal : Deal V) (shop : Shop V τ) : Shop V τ := { shop with deals := shop.deals ++ [deal] }

@[simp] theorem deal_channel (deal : Deal V) (shop : Shop V τ) :
    (shop.deal deal).channel = shop.channel := rfl

/-- What has come about of some sort, in order. -/
def all (pick : Deal V → Option α) (shop : Shop V τ) : List α := shop.deals.filterMap pick

@[simp] theorem all_deal (pick : Deal V → Option α) (deal : Deal V) (shop : Shop V τ) :
    (shop.deal deal).all pick = shop.all pick ++ (pick deal).toList := by
  rcases hpick : pick deal <;> simp [all, Shop.deal, hpick]

@[simp] theorem all_channel (pick : Deal V → Option α) (channel : Channel V) (shop : Shop V τ) :
    { shop with channel }.all pick = shop.all pick := rfl

@[simp] theorem all_behind (pick : Deal V → Option α) (behind : τ) (shop : Shop V τ) :
    { shop with behind }.all pick = shop.all pick := rfl

/-- What was taken and sent is part of what the worker did. -/
theorem all_of_worked (shop : Shop V τ) :
    shop.all Deal.taken? = (shop.all Deal.worked?).filterMap Deal.taken? ∧
      shop.all Deal.sent? = (shop.all Deal.worked?).filterMap Deal.sent? := by
  constructor
  all_goals
    rw [all, all, List.filterMap_filterMap]
    congr 1
    funext deal
    cases deal <;> rfl

/-- A step of the client. One that has dropped its collecting half does not collect. -/
def visit (shop : Shop V τ) : Client V → Shop V τ
  | .dispatch submission =>
    match shop.channel.dispatch submission with
    | (.ok (), channel) => { shop with channel }.deal (.accepted submission)
    | (.error _, channel) => { shop with channel }
  | .collect =>
    if shop.channel.collecting then
      match shop.channel.collect with
      | (.ready (some reply), channel) => { shop with channel }.deal (.collected reply)
      | (_, channel) => { shop with channel }
    else shop
  | .close => { shop with channel := shop.channel.closeSending }
  | .leave => { shop with channel := shop.channel.dropCollecting }

/-- The desk of the worker, at some instant, and with what it sleeps for come or not. -/
def desk (instant : ℕ) (rested : Bool) : Desk V (Shop V τ) where
  next shop :=
    match shop.channel.take with
    | (.ready (some submission), channel) =>
      (.ready (some submission), { shop with channel }.deal (.taken submission))
    | (outcome, channel) => (outcome, { shop with channel })
  reply reply shop :=
    match shop.channel.send reply with
    | (.ready true, channel) => (.ready true, { shop with channel }.deal (.sent reply))
    | (.ready false, channel) => (.ready false, { shop with channel }.deal (.returned reply))
    | (.pending, channel) => (.pending, { shop with channel })
  now _ := instant
  sleepUntil _ shop := (if rested then .ready () else .pending, shop)
  log _ shop := shop

section Desk

variable {shop : Shop V τ} {instant : ℕ} {rested : Bool} {reply : Reply V}

@[simp] theorem desk_now : (desk instant rested).now shop = instant := rfl

@[simp] theorem desk_log (event : Event) : (desk instant rested).log event shop = shop := rfl

@[simp] theorem desk_sleepUntil (wakeUp : ℕ) :
    (desk instant rested).sleepUntil wakeUp shop = (if rested then .ready () else .pending, shop) :=
  rfl

variable (instant rested) in
theorem desk_next_cons {submission : Submission V} {waiting : List (Submission V)}
    (hsubmissions : shop.channel.submissions = submission :: waiting) :
    (desk instant rested).next shop = (.ready (some submission),
      { shop with channel := { shop.channel with submissions := waiting } }.deal
        (.taken submission)) := by
  simp [desk, Channel.take, hsubmissions]

variable (instant rested) in
theorem desk_next_nil (hsubmissions : shop.channel.submissions = []) :
    (desk instant rested).next shop =
      (if shop.channel.sending then .pending else .ready none, shop) := by
  rcases hsending : shop.channel.sending <;> simp [desk, Channel.take, hsubmissions, hsending]

theorem desk_reply_room (hcollecting : shop.channel.collecting = true)
    (hroom : shop.channel.replies.length < shop.channel.capacity) :
    (desk instant rested).reply reply shop =
      (.ready true, { shop with
        channel := { shop.channel with
          replies := shop.channel.replies ++ [reply] } }.deal (.sent reply)) := by
  simp [desk, Channel.send, hcollecting, hroom]

theorem desk_reply_full (hcollecting : shop.channel.collecting = true)
    (hroom : ¬ shop.channel.replies.length < shop.channel.capacity) :
    (desk instant rested).reply reply shop = (.pending, shop) := by
  simp [desk, Channel.send, hcollecting, hroom]

theorem desk_reply_left (hcollecting : shop.channel.collecting = false) :
    (desk instant rested).reply reply shop = (.ready false, shop.deal (.returned reply)) := by
  simp [desk, Channel.send, hcollecting]

end Desk

/-- What a phase of the worker leaves. A worker that has stopped drops its end. -/
def outcome : (Move × Φ) × Shop V τ → Φ × Shop V τ
  | ((.stopped, phase), shop) => (phase, { shop with channel := shop.channel.dropWorker })
  | ((.again, phase), shop) | ((.waiting, phase), shop) => (phase, shop)

/-- A step of the client, or a phase of the worker. -/
def next (work : κ → Φ → Shop V τ → (Move × Φ) × Shop V τ) :
    Client V ⊕ κ → Φ × Shop V τ → Φ × Shop V τ
  | .inl step, (phase, shop) => (phase, shop.visit step)
  | .inr cue, (phase, shop) => outcome (work cue phase shop)

def after (work : κ → Φ → Shop V τ → (Move × Φ) × Shop V τ) (acts : List (Client V ⊕ κ))
    (start : Φ × Shop V τ) : Φ × Shop V τ :=
  acts.foldl (fun state act ↦ next work act state) start

section After

variable {work : κ → Φ → Shop V τ → (Move × Φ) × Shop V τ} {start : Φ × Shop V τ}

theorem after_append (acts later : List (Client V ⊕ κ)) :
    after work (acts ++ later) start = after work later (after work acts start) :=
  List.foldl_append

/-- What every step keeps is kept. -/
theorem after_induction {P : Φ × Shop V τ → Prop} (hstart : P start)
    (hnext : ∀ act state, P state → P (next work act state)) (acts : List (Client V ⊕ κ)) :
    P (after work acts start) := by
  induction acts generalizing start with
  | nil => exact hstart
  | cons act acts ih => exact ih (hnext act start hstart)

end After

/-! ### The client -/

/-- What a step of the client amounts to. -/
inductive Visited (shop : Shop V τ) : Shop V τ → Prop where
  | nothing : Visited shop shop
  | dispatched (submission : Submission V) (hsending : shop.channel.sending = true)
    (hworking : shop.channel.working = true) :
    Visited shop ({ shop with channel := { shop.channel with
      submissions := shop.channel.submissions ++ [submission] } }.deal (.accepted submission))
  | collected (reply : Reply V) (waiting : List (Reply V))
    (hcollecting : shop.channel.collecting = true)
    (hreplies : shop.channel.replies = reply :: waiting) :
    Visited shop
      ({ shop with channel := { shop.channel with replies := waiting } }.deal (.collected reply))
  | closed : Visited shop { shop with channel := shop.channel.closeSending }
  | left : Visited shop { shop with channel := shop.channel.dropCollecting }

theorem visited (shop : Shop V τ) (step : Client V) : shop.Visited (shop.visit step) := by
  cases step with
  | dispatch submission =>
    by_cases hsending : shop.channel.sending = true
    · by_cases hworking : shop.channel.working = true
      · simpa [visit, Channel.dispatch, hsending, hworking] using
          Visited.dispatched submission hsending hworking
      · simpa [visit, Channel.dispatch, hsending, hworking] using Visited.nothing
    · simpa [visit, Channel.dispatch, hsending] using Visited.nothing
  | collect =>
    by_cases hcollecting : shop.channel.collecting = true
    · rcases hreplies : shop.channel.replies with _ | ⟨reply, waiting⟩
      · rcases hworking : shop.channel.working <;>
          simpa [visit, Channel.collect, hcollecting, hreplies, hworking] using Visited.nothing
      · simpa [visit, Channel.collect, hcollecting, hreplies] using
          Visited.collected reply waiting hcollecting hreplies
    · simpa [visit, hcollecting] using Visited.nothing
  | close => exact .closed
  | leave => exact .left

/-- What every step of the client keeps, and every one of the steps that make up the phases of the
worker, is kept. -/
theorem after_induction_of_steps {work : κ → Φ → Shop V τ → (Move × Φ) × Shop V τ}
    {steps : Φ × Shop V τ → Φ × Shop V τ → Prop}
    (hsteps : ∀ cue phase shop,
      Relation.ReflTransGen steps (phase, shop) (next work (.inr cue) (phase, shop)))
    {P : Φ × Shop V τ → Prop}
    (hvisited : ∀ {phase shop shop'}, P (phase, shop) → shop.Visited shop' → P (phase, shop'))
    (hstep : ∀ {state state'}, P state → steps state state' → P state') {start : Φ × Shop V τ}
    (hstart : P start) (acts : List (Client V ⊕ κ)) : P (after work acts start) := by
  refine after_induction hstart (fun act state hstate ↦ ?_) acts
  obtain ⟨phase, shop⟩ := state
  cases act with
  | inl step => exact hvisited hstate (shop.visited step)
  | inr cue =>
    have hreached := hsteps cue phase shop
    generalize next work (.inr cue) (phase, shop) = state' at hreached ⊢
    induction hreached with
    | refl => exact hstate
    | tail _ hlast ih => exact hstep ih hlast

end Shop

end Errand
