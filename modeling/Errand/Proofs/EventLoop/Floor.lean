import Errand.EventLoop.Turn
import Errand.Proofs.Flow.Scripted

/-!
The floor of an event loop: what its lines, channels and tasks hold, the state of the service, and
the time. Who waits for whom, which timers are set and what has been logged do not show there
(`wake_floor`, `sleepUntil_floor`). What the two ends of a link do is what the channel does
(`desk_next`, `desk_reply`, `startDispatch_link`, `pollReply_link`), or nothing where the party has
no steps left in its turn (`paced_stalled`).
-/

set_option autoImplicit false

namespace Errand

variable {V : ValueTypes} {ω α : Type}

/-- A channel between a client and a worker who are both there. -/
def Channel.opened (submissions : List (Submission V)) (replies : List (Reply V)) (capacity : ℕ) :
    Channel V :=
  ⟨submissions, true, true, true, replies, capacity⟩

/-- Nothing is in the channel for the worker, and nothing will come. -/
def Channel.Exhausted (channel : Channel V) : Prop :=
  channel.submissions = [] ∧ channel.sending = false

/-- Closing the sending half of a link closes that of its channel. -/
theorem Link.closeSending_channel (link : Link V) :
    link.closeSending.2.2.channel = link.channel.closeSending := by
  by_cases hsending : link.channel.sending = true
  · simp [Link.closeSending, hsending]
  · -- It was closed before.
    have hclosed : link.channel.closeSending = link.channel := by
      rcases hlinked : link.channel with
        ⟨submissions, sending, collecting, working, replies, capacity⟩
      simp_all [Channel.closeSending]
    simp [Link.closeSending, hsending, hclosed]

structure Floor (V : ValueTypes) (ω : Type) where
  clock : ℕ
  service : ω
  lines : ℕ → Option (Loopback.Line V)
  channels : ℕ → Option (Channel V)
  jobs : ℕ → Option (Job V)

namespace Floor

def setChannel (index : ℕ) (channel : Channel V) (f : Floor V ω) : Floor V ω :=
  { f with channels := Function.update f.channels index (some channel) }

def setJob (id : ℕ) (job : Job V) (f : Floor V ω) : Floor V ω :=
  { f with jobs := Function.update f.jobs id (some job) }

section Set

variable (f : Floor V ω) (index id : ℕ) (channel : Channel V) (job : Job V)

@[simp] theorem setChannel_channels_self :
    (f.setChannel index channel).channels index = some channel :=
  Function.update_self ..

@[simp] theorem setJob_jobs_self : (f.setJob id job).jobs id = some job := Function.update_self ..

theorem setJob_jobs_of_ne {other : ℕ} (hne : other ≠ id) :
    (f.setJob id job).jobs other = f.jobs other :=
  Function.update_of_ne hne ..

@[simp] theorem setJob_service : (f.setJob id job).service = f.service := rfl

@[simp] theorem setJob_channels : (f.setJob id job).channels = f.channels := rfl

end Set

theorem setChannel_self {f : Floor V ω} {index : ℕ} {channel : Channel V}
    (hchannel : f.channels index = some channel) : f.setChannel index channel = f := by
  rw [setChannel, ← hchannel, Function.update_eq_self]

theorem setChannel_setChannel (f : Floor V ω) (index : ℕ) (channel channel' : Channel V) :
    (f.setChannel index channel).setChannel index channel' = f.setChannel index channel' := by
  simp only [setChannel, Function.update_idem]

theorem setJob_self {f : Floor V ω} {id : ℕ} {job : Job V} (hjob : f.jobs id = some job) :
    f.setJob id job = f := by
  rw [setJob, ← hjob, Function.update_eq_self]

/-- Lines and channels from `height` on are as they were, and so are the jobs and the time. -/
structure Near (height : ℕ) (f f' : Floor V ω) : Prop where
  clock : f'.clock = f.clock
  jobs : f'.jobs = f.jobs
  channels : ∀ index, height ≤ index → f'.channels index = f.channels index

/-- Everything below `height` is as it was, but for the time. -/
structure Beyond (height : ℕ) (f f' : Floor V ω) : Prop where
  service : f'.service = f.service
  lines : f'.lines = f.lines
  channels : ∀ index, index < height → f'.channels index = f.channels index
  jobs : ∀ id, id < height → f'.jobs id = f.jobs id

theorem Near.refl (height : ℕ) (f : Floor V ω) : f.Near height f := ⟨rfl, rfl, fun _ _ ↦ rfl⟩

theorem Near.trans {height : ℕ} {f f' f'' : Floor V ω} (hfirst : f.Near height f')
    (hlast : f'.Near height f'') : f.Near height f'' where
  clock := hlast.clock.trans hfirst.clock
  jobs := hlast.jobs.trans hfirst.jobs
  channels index hindex := (hlast.channels index hindex).trans (hfirst.channels index hindex)

theorem Near.mono {height height' : ℕ} {f f' : Floor V ω} (hnear : f.Near height f')
    (hheight : height ≤ height') : f.Near height' f' :=
  ⟨hnear.clock, hnear.jobs, fun index hindex ↦ hnear.channels index (hheight.trans hindex)⟩

theorem Beyond.mono {height height' : ℕ} {f f' : Floor V ω} (hbeyond : f.Beyond height' f')
    (hheight : height ≤ height') : f.Beyond height f' where
  service := hbeyond.service
  lines := hbeyond.lines
  channels index hindex := hbeyond.channels index (hindex.trans_le hheight)
  jobs id hid := hbeyond.jobs id (hid.trans_le hheight)

theorem near_setChannel {height index : ℕ} (hindex : index < height) (channel : Channel V)
    (f : Floor V ω) : f.Near height (f.setChannel index channel) :=
  ⟨rfl, rfl, fun _ hother ↦ Function.update_of_ne (by omega) _ _⟩

theorem beyond_setChannel {height index : ℕ} (hindex : height ≤ index) (channel : Channel V)
    (f : Floor V ω) : f.Beyond height (f.setChannel index channel) :=
  ⟨rfl, rfl, fun _ hother ↦ Function.update_of_ne (by omega) _ _, fun _ _ ↦ rfl⟩

theorem beyond_setJob {height id : ℕ} (hid : height ≤ id) (job : Job V) (f : Floor V ω) :
    f.Beyond height (f.setJob id job) :=
  ⟨rfl, rfl, fun _ _ ↦ rfl, fun _ hother ↦ Function.update_of_ne (by omega) _ _⟩

theorem beyond_clock (height clock : ℕ) (f : Floor V ω) : f.Beyond height { f with clock } :=
  ⟨rfl, rfl, fun _ _ ↦ rfl, fun _ _ ↦ rfl⟩

theorem Beyond.symm {height : ℕ} {f f' : Floor V ω} (hbeyond : f.Beyond height f') :
    f'.Beyond height f where
  service := hbeyond.service.symm
  lines := hbeyond.lines.symm
  channels index hindex := (hbeyond.channels index hindex).symm
  jobs id hid := (hbeyond.jobs id hid).symm

theorem Beyond.trans {height : ℕ} {f f' f'' : Floor V ω} (hfirst : f.Beyond height f')
    (hlast : f'.Beyond height f'') : f.Beyond height f'' where
  service := hlast.service.trans hfirst.service
  lines := hlast.lines.trans hfirst.lines
  channels index hindex := (hlast.channels index hindex).trans (hfirst.channels index hindex)
  jobs id hid := (hlast.jobs id hid).trans (hfirst.jobs id hid)

end Floor

namespace EventLoop

/-- The floor of an event loop. -/
def floor (loop : EventLoop V ω) : Floor V ω where
  clock := loop.clock
  service := loop.service
  lines index := loop.lines[index]?
  channels index := (loop.links[index]?).map Link.channel
  jobs id := loop.jobs[id]?

variable (loop : EventLoop V ω)

/-! ### What does not show -/

@[simp] theorem wake_floor (who : Party) : (loop.wake who).floor = loop.floor := by
  obtain ⟨_, _, _, hwake⟩ := exists_wake_eq who loop
  rw [hwake]
  rfl

@[simp] theorem wake_allowance (who : Party) : (loop.wake who).allowance = loop.allowance := by
  obtain ⟨_, _, _, hwake⟩ := exists_wake_eq who loop
  rw [hwake]

@[simp] theorem wake_links (who : Party) : (loop.wake who).links = loop.links := by
  obtain ⟨_, _, _, hwake⟩ := exists_wake_eq who loop
  rw [hwake]

@[simp] theorem wake_jobs (who : Party) : (loop.wake who).jobs = loop.jobs := by
  obtain ⟨_, _, _, hwake⟩ := exists_wake_eq who loop
  rw [hwake]

@[simp] theorem wakeAll_floor (parties : List Party) :
    (loop.wakeAll parties).floor = loop.floor := by
  induction parties generalizing loop with
  | nil => rfl
  | cons who parties ih => exact (ih (loop.wake who)).trans (loop.wake_floor who)

@[simp] theorem wakeAll_allowance (parties : List Party) :
    (loop.wakeAll parties).allowance = loop.allowance := by
  induction parties generalizing loop with
  | nil => rfl
  | cons who parties ih => exact (ih (loop.wake who)).trans (loop.wake_allowance who)

@[simp] theorem log_floor (event : Event) : (loop.log event).floor = loop.floor := rfl

@[simp] theorem defer_floor (who : Party) : (loop.defer who).floor = loop.floor := by
  unfold EventLoop.defer
  split_ifs <;> rfl

@[simp] theorem wakeDeferred_floor : loop.wakeDeferred.floor = loop.floor :=
  wakeAll_floor _ _

/-- Passing to a millisecond changes the time alone. -/
theorem passTo_floor (tick : ℕ) :
    (loop.passTo tick).floor = { loop.floor with clock := max loop.clock tick } :=
  wakeAll_floor _ _

/-! ### Steps of a turn -/

/-- A turn shows in what its phases do, and in the job that the task has after them. -/
theorem runFor_floor {service : TimedService V ω} {phases id : ℕ} {loop loop' : EventLoop V ω}
    {job job' : Job V} (hjob : loop.jobs[id]? = some job)
    (hturn : job.turn service id phases
      { loop with running := some id, rerun := false, allowance := stepsPerTurn } = (job', loop'))
    (hjobs : loop'.floor.jobs = loop.floor.jobs) :
    (loop.runFor service phases id).floor = loop'.floor.setJob id job' := by
  have hbound : id < loop'.jobs.size := by
    have hsome : loop'.jobs[id]? = some job := (congrFun hjobs id).trans hjob
    exact (Array.getElem?_eq_some_iff.mp hsome).1
  have hset : ({ loop' with
      jobs := loop'.jobs.setIfInBounds id job', running := none, rerun := false } :
        EventLoop V ω).floor = loop'.floor.setJob id job' := by
    simp only [floor, Floor.setJob, Floor.mk.injEq, true_and]
    funext other
    by_cases hother : id = other
    · subst hother
      simp [hbound]
    · rw [Function.update_of_ne (Ne.symm hother), Array.getElem?_setIfInBounds_ne hother]
  simp only [runFor, hjob, hturn]
  by_cases hrerun : loop'.rerun = true
  · rw [if_pos hrerun, wake_floor, hset]
  · rw [if_neg hrerun, hset]

variable {loop} {who : Party} {index : ℕ}

section Paced

variable (who : Party) (operation : EventLoop V ω → Poll α × EventLoop V ω)

/-- Who has no steps left has to wait. -/
theorem paced_stalled (hstalled : loop.allowance = 0) :
    loop.paced who operation = (.pending, loop.defer who) := by
  simp [paced, hstalled]

/-- A step is counted, and does no more than what is done in it. -/
theorem paced_eq (hstep : 0 < loop.allowance) :
    (loop.paced who operation).1 = (operation loop).1 ∧
      (loop.paced who operation).2.floor = (operation loop).2.floor := by
  simp only [paced, if_neg hstep.ne']
  rcases operation loop with ⟨_ | a, loop'⟩
  · exact ⟨rfl, rfl⟩
  · exact ⟨rfl, rfl⟩

end Paced

/-- Waiting for an instant does not show. -/
theorem setTimer_floor (instant : ℕ) : (loop.setTimer who instant).2.floor = loop.floor := by
  simp only [setTimer]
  split_ifs <;> rfl

theorem sleepUntil_floor (instant : ℕ) : (loop.sleepUntil who instant).2.floor = loop.floor := by
  by_cases hstep : 0 < loop.allowance
  · rw [sleepUntil, (paced_eq who (setTimer who instant) hstep).2, setTimer_floor]
  · rw [sleepUntil, paced_stalled who _ (by omega)]
    exact loop.defer_floor who

/-- The waiting is over once the time has come. -/
theorem sleepUntil_of_le {instant : ℕ} (hstep : 0 < loop.allowance)
    (hcome : tickOf instant ≤ loop.clock) : (loop.sleepUntil who instant).1 = .ready () := by
  rw [sleepUntil, (paced_eq who (setTimer who instant) hstep).1, setTimer]
  exact congrArg Prod.fst (if_pos hcome)

/-! ### Channels -/

theorem exists_link_of_channel {channel : Channel V}
    (hchannel : loop.floor.channels index = some channel) :
    ∃ link, loop.links[index]? = some link ∧ link.channel = channel :=
  Option.map_eq_some_iff.mp hchannel

/-- An operation on a link shows in its channel. -/
theorem onLink_floor (absent : α) (operation : Link V → Link.Outcome V α) {link : Link V}
    (hlink : loop.links[index]? = some link) :
    ∃ loop', loop.onLink index absent operation = ((operation link).1, loop') ∧
      loop'.floor = loop.floor.setChannel index (operation link).2.2.channel ∧
      loop'.allowance = loop.allowance := by
  refine ⟨{ loop with links := loop.links.setIfInBounds index (operation link).2.2 }.wakeAll
    (operation link).2.1.toList, by simp only [onLink, hlink], ?_, wakeAll_allowance _ _⟩
  rw [wakeAll_floor]
  obtain ⟨hbound, -⟩ := Array.getElem?_eq_some_iff.mp hlink
  simp only [floor, Floor.setChannel, Floor.mk.injEq, true_and, and_true]
  funext i
  by_cases hi : index = i
  · subst hi
    simp [hbound]
  · rw [Function.update_of_ne (Ne.symm hi), Array.getElem?_setIfInBounds_ne hi]

section Ends

variable {channel : Channel V} (hchannel : loop.floor.channels index = some channel)
  (who : Party)
include hchannel

/-- An operation on a link that does what another does on the channel. -/
theorem paced_onLink {absent : Poll α} {operation : Link V → Link.Outcome V (Poll α)}
    {act : Channel V → Poll α × Channel V}
    (hact : ∀ link, (operation link).1 = (act link.channel).1 ∧
      (operation link).2.2.channel = (act link.channel).2) (hstep : 0 < loop.allowance) :
    ∃ loop', loop.paced who (onLink index absent operation) = ((act channel).1, loop') ∧
      loop'.floor = loop.floor.setChannel index (act channel).2 := by
  obtain ⟨link, hlink, rfl⟩ := exists_link_of_channel hchannel
  obtain ⟨loop', honLink, hfloor, -⟩ := onLink_floor absent operation hlink
  obtain ⟨houtcome, hpaced⟩ := paced_eq who (onLink index absent operation) hstep
  refine ⟨_, Prod.ext (houtcome.trans ?_) rfl, hpaced.trans ?_⟩
  · rw [honLink, (hact link).1]
  · rw [honLink, hfloor, (hact link).2]

/-- A worker takes a submission from its channel. -/
theorem desk_next (hstep : 0 < loop.allowance) :
    ∃ loop', (desk who index).next loop = (channel.take.1, loop') ∧
      loop'.floor = loop.floor.setChannel index channel.take.2 := by
  refine paced_onLink hchannel who (fun link ↦ ?_) hstep
  rcases htake : link.channel.take with ⟨_ | _, channel⟩ <;> simp [Link.take, htake]

/-- A worker puts a reply into its channel. -/
theorem desk_reply (reply : Reply V) (hstep : 0 < loop.allowance) :
    ∃ loop', (desk who index).reply reply loop = ((channel.send reply).1, loop') ∧
      loop'.floor = loop.floor.setChannel index (channel.send reply).2 := by
  refine paced_onLink hchannel who (fun link ↦ ?_) hstep
  rcases hsend : link.channel.send reply with ⟨_ | _ | _, channel⟩ <;> simp [Link.send, hsend]

/-- A client finds in its channel what was put there. -/
theorem collect_floor (hstep : 0 < loop.allowance) :
    ∃ loop', loop.paced who (onLink index (.ready none) (Link.collect who)) =
        (channel.collect.1, loop') ∧
      loop'.floor = loop.floor.setChannel index channel.collect.2 := by
  refine paced_onLink hchannel who (fun link ↦ ?_) hstep
  rcases hcollect : link.channel.collect with ⟨_ | _ | _, channel⟩ <;>
    simp [Link.collect, hcollect]

theorem pollReady_link (hsending : channel.sending = true) :
    pollReady who (.link index) loop = (.ready (.ok ()), loop) := by
  obtain ⟨link, hlink, rfl⟩ := exists_link_of_channel hchannel
  simp [pollReady, hlink, Channel.ready, hsending, Except.mapError]

omit who in
theorem startDispatch_link (service : TimedService V ω) (submission : Submission V)
    (hsending : channel.sending = true) (hworking : channel.working = true) :
    ∃ loop', startDispatch service (.link index) submission loop = (.ok (), loop') ∧
      loop'.floor = loop.floor.setChannel index
        { channel with submissions := channel.submissions ++ [submission] } ∧
      loop'.allowance = loop.allowance := by
  obtain ⟨link, hlink, rfl⟩ := exists_link_of_channel hchannel
  obtain ⟨loop', honLink, hfloor, hallowance⟩ :=
    onLink_floor (.error .closed) (Link.dispatch submission) hlink
  have hdispatch : link.dispatch submission = (.ok (), link.awaitingSubmission,
      { link with
        channel := { link.channel with submissions := link.channel.submissions ++ [submission] }
        awaitingSubmission := none }) := by
    simp [Link.dispatch, Channel.dispatch, hsending, hworking]
  rw [hdispatch] at honLink hfloor
  exact ⟨loop', by simp [startDispatch, honLink, Except.mapError], hfloor, hallowance⟩

/-- Nothing is collected before it is there. -/
theorem pollReply_link_pending (service : TimedService V ω)
    (hreplies : channel.replies = []) (hworking : channel.working = true) :
    ∃ loop', pollReply service who (.link index) loop = (.pending, loop') ∧
      loop'.floor = loop.floor := by
  have hcollect : channel.collect = (.pending, channel) := by
    simp [Channel.collect, hreplies, hworking]
  by_cases hstep : 0 < loop.allowance
  · obtain ⟨loop', hpaced, hfloor⟩ := collect_floor hchannel who hstep
    rw [hcollect] at hpaced hfloor
    exact ⟨loop', by simp [pollReply, hpaced], hfloor.trans (Floor.setChannel_self hchannel)⟩
  · have hpaced : loop.paced who (onLink index (.ready none) (Link.collect who)) =
        (.pending, loop.defer who) := paced_stalled who _ (by omega)
    exact ⟨loop.defer who, by simp [pollReply, hpaced], loop.defer_floor who⟩

/-- The oldest reply is collected, unless the party has no steps left. -/
theorem pollReply_link (service : TimedService V ω) {reply : Reply V}
    {rest : List (Reply V)} (hreplies : channel.replies = reply :: rest) :
    (∃ loop', pollReply service who (.link index) loop = (.pending, loop') ∧
        loop'.floor = loop.floor ∧ loop.allowance = 0) ∨
      ∃ loop', pollReply service who (.link index) loop = (.ready (.ok reply), loop') ∧
        loop'.floor = loop.floor.setChannel index { channel with replies := rest } := by
  have hcollect : channel.collect = (.ready (some reply), { channel with replies := rest }) := by
    simp [Channel.collect, hreplies]
  by_cases hstep : 0 < loop.allowance
  · obtain ⟨loop', hpaced, hfloor⟩ := collect_floor hchannel who hstep
    rw [hcollect] at hpaced hfloor
    exact Or.inr ⟨loop', by simp [pollReply, hpaced], hfloor⟩
  · have hpaced : loop.paced who (onLink index (.ready none) (Link.collect who)) =
        (.pending, loop.defer who) := paced_stalled who _ (by omega)
    exact Or.inl ⟨loop.defer who, by simp [pollReply, hpaced], loop.defer_floor who, by omega⟩

theorem pollClose_link :
    ∃ loop', pollClose who (.link index) loop = (.ready (.ok ()), loop') ∧
      loop'.floor = loop.floor.setChannel index channel.closeSending := by
  obtain ⟨link, hlink, rfl⟩ := exists_link_of_channel hchannel
  obtain ⟨loop', honLink, hfloor, -⟩ := onLink_floor () Link.closeSending hlink
  exact ⟨loop', by simp [pollClose, honLink], by rw [hfloor, link.closeSending_channel]⟩

omit who

theorem dropSending_link :
    (loop.dropSending (.link index)).floor = loop.floor.setChannel index channel.closeSending := by
  obtain ⟨link, hlink, rfl⟩ := exists_link_of_channel hchannel
  obtain ⟨loop', honLink, hfloor, -⟩ := onLink_floor () Link.closeSending hlink
  rw [dropSending, honLink, hfloor, link.closeSending_channel]

theorem dropCollecting_link : (loop.dropCollecting (.link index)).floor =
    loop.floor.setChannel index channel.dropCollecting := by
  obtain ⟨link, hlink, rfl⟩ := exists_link_of_channel hchannel
  obtain ⟨loop', honLink, hfloor, -⟩ := onLink_floor () Link.dropCollecting hlink
  rw [dropCollecting, honLink, hfloor]
  rfl

/-- A client that goes leaves the channel without either of its halves. -/
theorem drop_link : ((loop.dropCollecting (.link index)).dropSending (.link index)).floor =
    loop.floor.setChannel index channel.dropCollecting.closeSending := by
  have hdropped := dropCollecting_link hchannel
  have hchannel' : (loop.dropCollecting (.link index)).floor.channels index =
      some channel.dropCollecting := by
    rw [hdropped, Floor.setChannel_channels_self]
  rw [dropSending_link hchannel', hdropped, Floor.setChannel_setChannel]

theorem dropWorker_floor :
    (loop.dropWorker index).floor = loop.floor.setChannel index channel.dropWorker := by
  obtain ⟨link, hlink, rfl⟩ := exists_link_of_channel hchannel
  obtain ⟨loop', honLink, hfloor, -⟩ := onLink_floor () Link.dropWorker hlink
  rw [dropWorker, honLink, hfloor]
  rfl

end Ends

/-! ### Channels open at both ends -/

section Opened

variable (who : Party) {submissions : List (Submission V)} {replies : List (Reply V)} {capacity : ℕ}

theorem desk_next_nil
    (hchannel : loop.floor.channels index = some (.opened [] replies capacity)) :
    ∃ loop', (desk who index).next loop = (.pending, loop') ∧ loop'.floor = loop.floor := by
  by_cases hstep : 0 < loop.allowance
  · obtain ⟨loop', hnext, hfloor⟩ := desk_next hchannel who hstep
    exact ⟨loop', hnext, hfloor.trans (Floor.setChannel_self hchannel)⟩
  · exact ⟨loop.defer who, paced_stalled who _ (by omega), loop.defer_floor who⟩

theorem desk_next_cons {submission : Submission V}
    (hchannel : loop.floor.channels index =
      some (.opened (submission :: submissions) replies capacity)) :
    (∃ loop', (desk who index).next loop = (.pending, loop') ∧ loop'.floor = loop.floor ∧
        loop.allowance = 0) ∨
      ∃ loop', (desk who index).next loop = (.ready (some submission), loop') ∧
        loop'.floor = loop.floor.setChannel index (.opened submissions replies capacity) := by
  by_cases hstep : 0 < loop.allowance
  · exact Or.inr (desk_next hchannel who hstep)
  · exact Or.inl ⟨loop.defer who, paced_stalled who _ (by omega), loop.defer_floor who, by omega⟩

theorem desk_next_exhausted {channel : Channel V}
    (hchannel : loop.floor.channels index = some channel) (hexhausted : channel.Exhausted) :
    ∃ loop', ((desk who index).next loop = (.pending, loop') ∧ loop.allowance = 0 ∨
        (desk who index).next loop = (.ready none, loop')) ∧ loop'.floor = loop.floor := by
  obtain ⟨hsubmissions, hsending⟩ := hexhausted
  have htake : channel.take = (.ready none, channel) := by
    simp [Channel.take, hsubmissions, hsending]
  by_cases hstep : 0 < loop.allowance
  · obtain ⟨loop', hnext, hfloor⟩ := desk_next hchannel who hstep
    rw [htake] at hnext hfloor
    exact ⟨loop', Or.inr hnext, hfloor.trans (Floor.setChannel_self hchannel)⟩
  · exact ⟨loop.defer who, Or.inl ⟨paced_stalled who _ (by omega), by omega⟩, loop.defer_floor who⟩

theorem desk_reply_opened (hroom : replies.length < capacity)
    (hchannel : loop.floor.channels index = some (.opened submissions replies capacity))
    (reply : Reply V) :
    (∃ loop', (desk who index).reply reply loop = (.pending, loop') ∧ loop'.floor = loop.floor ∧
        loop.allowance = 0) ∨
      ∃ loop', (desk who index).reply reply loop = (.ready true, loop') ∧
        loop'.floor = loop.floor.setChannel index
          (.opened submissions (replies ++ [reply]) capacity) := by
  by_cases hstep : 0 < loop.allowance
  · obtain ⟨loop', hreply, hfloor⟩ := desk_reply hchannel who reply hstep
    have hsend : (Channel.opened submissions replies capacity).send reply =
        (.ready true, .opened submissions (replies ++ [reply]) capacity) := by
      simp [Channel.send, Channel.opened, hroom]
    rw [hsend] at hreply hfloor
    exact Or.inr ⟨loop', hreply, hfloor⟩
  · exact Or.inl ⟨loop.defer who, paced_stalled who _ (by omega), loop.defer_floor who, by omega⟩

theorem desk_sleepUntil (index instant : ℕ) (loop : EventLoop V ω) :
    (∃ loop', (desk who index).sleepUntil instant loop = (.pending, loop') ∧
        loop'.floor = loop.floor ∧ (loop.allowance = 0 ∨ loop.clock < tickOf instant)) ∨
      ∃ loop', (desk who index).sleepUntil instant loop = (.ready (), loop') ∧
        loop'.floor = loop.floor := by
  have hfloor : ((desk who index).sleepUntil instant loop).2.floor = loop.floor :=
    sleepUntil_floor instant
  rcases hsleep : (desk who index).sleepUntil instant loop with ⟨_ | _, loop'⟩ <;>
    rw [hsleep] at hfloor
  · refine Or.inl ⟨loop', rfl, hfloor, ?_⟩
    by_contra hready
    have hcome : ((desk who index).sleepUntil instant loop).1 = .ready () :=
      sleepUntil_of_le (by omega) (by omega)
    rw [hsleep] at hcome
    cases hcome
  · exact Or.inr ⟨loop', rfl, hfloor⟩

end Opened

end EventLoop

end Errand
