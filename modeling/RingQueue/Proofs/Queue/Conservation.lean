import RingQueue.Proofs.Queue.ChannelHistory
import RingQueue.Proofs.Queue.MpmcHistory

/-! Elements through the whole life of a queue. Main result: what a queue took in is what it gave out
and then what it destroyed, in this order, for either queue and however its ends are closed. As long
as an end is held nothing is destroyed. -/
namespace RingQueue.Queue

open RingQueue.Ring

variable {α : Type u} {capacity : UInt64}

/-- A loop that goes from place to place until it meets `stop` destroys one element a round: all that
are stored, oldest first, in as many rounds as the length says. -/
structure Releases {β : Type v} (outcome : Except Fault (List α)) (place : Nat → β) (stop : β)
    (length : UInt64) (stored : List α) : Prop where
  destroyed : outcome = .ok stored
  rounds : stored.length = length.toNat
  goesOn : ∀ round < stored.length, place round ≠ stop
  ends : place stored.length = stop

theorem Spsc.Account.releases {q : Spsc α capacity} {past : Nat} {stored : List α}
    (account : q.Account past stored) :
    Releases q.destroy q.head.advance q.tail q.length stored where
  destroyed := account.destroy_eq
  rounds := account.length_eq.symm
  goesOn := by
    intro round early same
    rw [account.head, account.tail, Index.advance_numbered] at same
    have room := account.room
    have := Index.numbered_injective (by omega) room same
    omega
  ends := by rw [account.head, account.tail, Index.advance_numbered]

theorem Mpmc.Account.releases {q : Mpmc α capacity} {past : Nat} {stored : List α}
    (admitted : Mpmc.Admitted capacity) (account : q.Account past stored) :
    Releases q.destroy (fun round => ((⟨q.dequeueIndex⟩ : Ticket capacity).advance round).position)
      q.enqueueIndex q.length stored := by
  have place (round : Nat) : ((⟨q.dequeueIndex⟩ : Ticket capacity).advance round).position =
      .ofNat (past + round) := by
    rw [account.dequeueIndex]
    exact congrArg Ticket.position (Ticket.advance_numbered past round)
  constructor
  · exact account.destroy_eq admitted
  · exact (account.length_eq admitted).symm
  · intro round early same
    have bounds := admitted.bounds
    have fits := account.length_le
    rw [place, account.enqueueIndex] at same
    have := Ticket.numbered_injective (by omega) (by omega) same
    omega
  · exact (place stored.length).trans account.enqueueIndex.symm

namespace Channel

inductive Step (α : Type u) where
  | call (call : Call α)
  | close (side : Side)
  deriving DecidableEq, Repr

def step : Step α → Channel α capacity → Except Fault (Event α × Channel α capacity)
  | .call call, channel => answer call channel
  | .close .producer, channel =>
    channel.closeProducer.map fun (destroyed, channel) => (.closed destroyed, channel)
  | .close .consumer, channel =>
    channel.closeConsumer.map fun (destroyed, channel) => (.closed destroyed, channel)

/-- The queue, as long as an end is held. -/
def queue? : Channel α capacity → Option (Spsc α capacity)
  | joined q | producerOnly q | consumerOnly q => some q
  | closed => none

def isHeld (side : Side) (channel : Channel α capacity) : Bool := (channel.end? side).isSome

/-- The same ends with another queue between them. -/
def replace (channel : Channel α capacity) (q : Spsc α capacity) : Channel α capacity :=
  match channel with
  | joined _ => joined q
  | producerOnly _ => producerOnly q
  | consumerOnly _ => consumerOnly q
  | closed => closed

section Ends

variable {channel : Channel α capacity} {q : Spsc α capacity} {side : Side}

@[simp] theorem isHeld_replace : (channel.replace q).isHeld side = channel.isHeld side := by
  cases channel <;> cases side <;> rfl

@[simp] theorem isHeld_closed : (closed : Channel α capacity).isHeld side = false := by
  cases side <;> rfl

theorem replace_self (live : channel.queue? = some q) : channel.replace q = channel := by
  cases channel <;> cases live <;> rfl

theorem queue?_replace (live : channel.queue? = some q) (next : Spsc α capacity) :
    (channel.replace next).queue? = some next := by
  cases channel <;> cases live <;> rfl

theorem end?_eq (held : channel.isHeld side = true) : channel.end? side = channel.queue? := by
  cases channel <;> cases side <;> first | rfl | cases held

theorem exists_queue (held : channel.isHeld side = true) : ∃ q, channel.queue? = some q := by
  rw [isHeld, end?_eq held] at held
  exact Option.isSome_iff_exists.mp held

theorem end?_eq_none (gone : channel.isHeld side = false) : channel.end? side = none := by
  simpa [isHeld] using gone

theorem push_held (held : channel.isHeld .producer = true) (live : channel.queue? = some q)
    (value : α) : channel.push value =
      (q.push value).map fun (offer, next) => (some offer, channel.replace next) := by
  cases channel <;> cases live <;> first | rfl | cases held

theorem push_gone (gone : channel.isHeld .producer = false) (value : α) :
    channel.push value = .ok (none, channel) := by
  cases channel <;> first | rfl | cases gone

theorem pop_held (held : channel.isHeld .consumer = true) (live : channel.queue? = some q) :
    channel.pop = q.pop.map fun (value, next) => (some value, channel.replace next) := by
  cases channel <;> cases live <;> first | rfl | cases held

theorem pop_gone (gone : channel.isHeld .consumer = false) : channel.pop = .ok (none, channel) := by
  cases channel <;> first | rfl | cases gone

/-- Closing an end beside which the other is held destroys nothing, and neither does closing it
again. -/
theorem step_close_first (other : channel.isHeld side = false ∨ ∀ s, channel.isHeld s = true) :
    ∃ next, step (.close side) channel = .ok (.closed [], next) ∧
      next.queue? = channel.queue? ∧
      ∀ s, next.isHeld s = (channel.isHeld s && decide (s ≠ side)) := by
  cases channel with
  | joined q =>
    cases side with
    | producer => exact ⟨consumerOnly q, rfl, rfl, fun s => by cases s <;> rfl⟩
    | consumer => exact ⟨producerOnly q, rfl, rfl, fun s => by cases s <;> rfl⟩
  | producerOnly q =>
    cases side with
    | producer => exact absurd (other.resolve_left nofun .consumer) nofun
    | consumer => exact ⟨producerOnly q, rfl, rfl, fun s => by cases s <;> rfl⟩
  | consumerOnly q =>
    cases side with
    | producer => exact ⟨consumerOnly q, rfl, rfl, fun s => by cases s <;> rfl⟩
    | consumer => exact absurd (other.resolve_left nofun .producer) nofun
  | closed => cases side <;> exact ⟨closed, rfl, rfl, fun s => by cases s <;> rfl⟩

theorem step_close_last (held : channel.isHeld side = true) (last : ∃ s, channel.isHeld s = false)
    (live : channel.queue? = some q) :
    step (.close side) channel = q.destroy.map fun destroyed => (.closed destroyed, closed) := by
  obtain ⟨s, gone⟩ := last
  cases channel with
  | joined => cases s <;> cases gone
  | producerOnly =>
    cases live
    cases side with
    | producer =>
      simp only [step, closeProducer]
      cases q.destroy <;> rfl
    | consumer => cases held
  | consumerOnly =>
    cases live
    cases side with
    | producer => cases held
    | consumer =>
      simp only [step, closeConsumer]
      cases q.destroy <;> rfl
  | closed => cases live

end Ends

/-- A call never makes or loses an element and leaves the ends as they are. Through an end that is
closed it does nothing. -/
theorem answer_of_account {channel : Channel α capacity} {q : Spsc α capacity} {past : Nat}
    {stored : List α} (live : channel.queue? = some q) (account : q.Account past stored)
    (call : Call α) :
    ∃ event next later after, answer call channel = .ok (event, channel.replace next) ∧
      next.Account later after ∧ Fifo.Conserves stored event after := by
  have absent : answer call channel = .ok (.absent, channel) →
      ∃ event next later after, answer call channel = .ok (event, channel.replace next) ∧
        next.Account later after ∧ Fifo.Conserves stored event after := fun nothing =>
    ⟨.absent, q, past, stored, by rw [replace_self live, nothing], account,
      Fifo.conserves_absent stored⟩
  cases call with
  | push value =>
    by_cases held : channel.isHeld .producer = true
    · obtain ⟨offer, next, after, pushed, kept, same⟩ := account.push value
      have conserves := Fifo.conserves_offer capacity.toNat value stored
      rw [same] at conserves
      refine ⟨.offered value offer, next, past, after, ?_, kept, conserves⟩
      rw [answer, push_held held live, pushed]
      rfl
    · apply absent
      rw [answer, push_gone (Bool.eq_false_iff.mpr held)]
      rfl
  | pop =>
    by_cases held : channel.isHeld .consumer = true
    · obtain ⟨value, next, later, after, popped, kept, same⟩ := account.pop
      have conserves := Fifo.conserves_take stored
      rw [same] at conserves
      refine ⟨.taken value, next, later, after, ?_, kept, conserves⟩
      rw [answer, pop_held held live, popped]
      rfl
    · apply absent
      rw [answer, pop_gone (Bool.eq_false_iff.mpr held)]
      rfl
  | ask side question =>
    by_cases held : channel.isHeld side = true
    · refine ⟨question.ask q, q, past, stored, ?_, account, ?_⟩
      · rw [answer, end?_eq held, live, replace_self live]
        rfl
      · cases question with
        | length => exact Fifo.conserves_counted ..
        | isEmpty => exact Fifo.conserves_told ..
        | isFull => exact Fifo.conserves_told ..
    · apply absent
      rw [answer, end?_eq_none (Bool.eq_false_iff.mpr held)]
      rfl

theorem answer_closed (call : Call α) :
    answer call (closed : Channel α capacity) = .ok (.absent, closed) := by
  cases call with
  | push | pop => rfl
  | ask side question => cases side <;> rfl

/-- How steps from an empty queue on have left a channel. Those ends are held that were not closed;
while there is one the elements balance without any loss, and then with what was destroyed. -/
structure Kept (steps : List (Step α)) (events : List (Event α)) (channel : Channel α capacity) :
    Prop where
  ends : ∀ side, channel.isHeld side = true ↔ .close side ∉ steps
  live : ∀ q, channel.queue? = some q →
    ∃ past stored, q.Account past stored ∧ Fifo.Balanced events stored
  gone : channel.queue? = none →
    Event.accepted events = Event.given events ++ Event.destroyed events ∧ Event.HandedBack events

theorem kept_joined (start : Index capacity) :
    Kept [] [] (joined (.startingAt start) : Channel α capacity) where
  ends side := by cases side <;> simp [isHeld, end?, producer?, consumer?]
  live := by
    rintro _ ⟨⟩
    exact ⟨_, [], Spsc.account_startingAt start, Fifo.balanced_nil⟩
  gone := nofun

section Steps

variable {steps : List (Step α)} {events : List (Event α)} {channel : Channel α capacity}

theorem Kept.call (kept : Kept steps events channel) (call : Call α) :
    ∃ event next, answer call channel = .ok (event, next) ∧
      Kept (steps ++ [.call call]) (events ++ [event]) next := by
  cases live : channel.queue? with
  | some q =>
    obtain ⟨past, stored, account, balanced⟩ := kept.live q live
    obtain ⟨event, next, later, after, answered, account, conserves⟩ :=
      answer_of_account live account call
    refine ⟨event, channel.replace next, answered, ?_, ?_, ?_⟩
    · intro side
      rw [isHeld_replace, kept.ends]
      simp
    · intro seen sees
      obtain rfl := Option.some.inj ((queue?_replace live next).symm.trans sees)
      exact ⟨later, after, account, balanced.append conserves⟩
    · intro none
      cases (queue?_replace live next).symm.trans none
  | none =>
    obtain ⟨elements, handedBack⟩ := kept.gone live
    obtain rfl : channel = closed := by cases channel <;> first | rfl | cases live
    refine ⟨.absent, closed, answer_closed call, ?_, nofun, fun _ => ⟨?_, ?_⟩⟩
    · intro side
      rw [kept.ends]
      simp
    · simpa [Event.accepted, Event.given, Event.destroyed] using elements
    · exact Event.handedBack_append.mpr ⟨handedBack, (Fifo.conserves_absent []).handedBack⟩

/-- Closing one of two ends, or an end again, leaves the balance as it is. -/
theorem Kept.close_first (kept : Kept steps events channel) {side : Side}
    (other : channel.isHeld side = false ∨ ∀ s, channel.isHeld s = true) :
    ∃ event next, step (.close side) channel = .ok (event, next) ∧
      Kept (steps ++ [.close side]) (events ++ [event]) next := by
  obtain ⟨next, closes, same, ends⟩ := step_close_first other
  refine ⟨.closed [], next, closes, ?_, ?_, ?_⟩
  · intro s
    rw [ends, Bool.and_eq_true, kept.ends, decide_eq_true_eq]
    simp
  · intro q live
    obtain ⟨past, stored, account, balanced⟩ := kept.live q (same.symm.trans live)
    exact ⟨past, stored, account, balanced.append (Fifo.conserves_closed_nil stored)⟩
  · intro none
    obtain ⟨elements, handedBack⟩ := kept.gone (same.symm.trans none)
    refine ⟨?_, Event.handedBack_append.mpr ⟨handedBack, (Fifo.conserves_closed_nil []).handedBack⟩⟩
    simpa [Event.accepted, Event.given, Event.destroyed] using elements

/-- Closing the last end turns all that is stored into what was destroyed. -/
theorem Kept.close_last (kept : Kept steps events channel) {side : Side}
    (held : channel.isHeld side = true) (last : ∃ s, channel.isHeld s = false) :
    ∃ event next, step (.close side) channel = .ok (event, next) ∧
      Kept (steps ++ [.close side]) (events ++ [event]) next := by
  obtain ⟨q, live⟩ := exists_queue held
  obtain ⟨past, stored, account, balanced⟩ := kept.live q live
  have closes := step_close_last held last live
  rw [account.destroy_eq] at closes
  refine ⟨.closed stored, closed, closes, ?_, nofun, fun _ => ⟨?_, ?_⟩⟩
  · intro s
    have closedBoth : .close s ∈ steps ++ [Step.close side] := by
      by_cases same : s = side
      · simp [same]
      · obtain ⟨t, gone⟩ := last
        have : s = t := by cases s <;> cases t <;> cases side <;> simp_all
        subst t
        have := mt (kept.ends s).mpr (by simp [gone])
        exact List.mem_append_left _ (not_not.mp this)
    simp [closedBoth]
  · rw [Event.accepted_append, Event.given_append, Event.destroyed_append, balanced.elements,
      balanced.intact]
    simp [Event.accepted, Event.given, Event.destroyed]
  · apply Event.handedBack_append.mpr
    exact ⟨balanced.handedBack, by simp [Event.HandedBack]⟩

theorem Kept.next (kept : Kept steps events channel) (now : Step α) :
    ∃ event next, step now channel = .ok (event, next) ∧
      Kept (steps ++ [now]) (events ++ [event]) next := by
  cases now with
  | call call => exact kept.call call
  | close side =>
    by_cases first : channel.isHeld side = false ∨ ∀ s, channel.isHeld s = true
    · exact kept.close_first first
    · obtain ⟨held, last⟩ := not_or.mp first
      simp only [Bool.not_eq_false, not_forall, Bool.not_eq_true] at held last
      exact kept.close_last held last

end Steps

/-- The consumer can take all that is stored, oldest first, whether or not the producer's end is
held. -/
theorem drain {channel : Channel α capacity} {q : Spsc α capacity} {past : Nat} {stored : List α}
    (held : channel.isHeld .consumer = true) (live : channel.queue? = some q)
    (account : q.Account past stored) :
    ∃ next, history step (List.replicate stored.length (.call .pop)) channel =
      .ok (stored.map fun value => .taken (some value), next) ∧
      next.consumer?.map Spsc.isEmpty = some true := by
  induction stored generalizing channel q past with
  | nil =>
    have sees : channel.consumer? = some q := (end?_eq held).trans live
    exact ⟨channel, rfl, by rw [sees, Option.map_some, account.isEmpty_eq]; rfl⟩
  | cons oldest rest ih =>
    obtain ⟨next, popped, kept⟩ := account.pop_oldest
    obtain ⟨last, others, empty⟩ :=
      ih (by rw [isHeld_replace, held]) (queue?_replace live next) kept
    refine ⟨last, history_cons ?_ others, empty⟩
    rw [step, answer, pop_held held live, popped]
    rfl

/-- What steps from an empty queue on have made of its elements. As long as an end is not closed
nothing is destroyed, what the end sees would be destroyed in one round for each element, and a
consumer can still take it all; once both are closed all that was not given out is destroyed. A
refused element is in none of the lists: it went back. -/
structure Settled (steps : List (Step α)) (events : List (Event α)) (channel : Channel α capacity) :
    Prop where
  handedBack : Event.HandedBack events
  held : ∀ side, .close side ∉ steps → ∃ q stored, channel.end? side = some q ∧
    Event.destroyed events = [] ∧ Event.accepted events = Event.given events ++ stored ∧
    Releases q.destroy q.head.advance q.tail q.length stored
  drained : .close .consumer ∉ steps → ∃ stored next,
    Event.accepted events = Event.given events ++ stored ∧
    history step (List.replicate stored.length (.call .pop)) channel =
      .ok (stored.map fun value => .taken (some value), next) ∧
    next.consumer?.map Spsc.isEmpty = some true
  released : (∀ side, .close side ∈ steps) → channel = closed ∧
    Event.accepted events = Event.given events ++ Event.destroyed events

theorem Kept.settled {steps : List (Step α)} {events : List (Event α)}
    {channel : Channel α capacity} (kept : Kept steps events channel) :
    Settled steps events channel where
  handedBack := by
    cases live : channel.queue? with
    | some q =>
      obtain ⟨_, _, _, balanced⟩ := kept.live q live
      exact balanced.handedBack
    | none => exact (kept.gone live).2
  held := by
    intro side opened
    have held := (kept.ends side).mpr opened
    obtain ⟨q, live⟩ := exists_queue held
    obtain ⟨past, stored, account, balanced⟩ := kept.live q live
    exact ⟨q, stored, (end?_eq held).trans live, balanced.intact, balanced.elements,
      account.releases⟩
  drained := by
    intro opened
    have held := (kept.ends .consumer).mpr opened
    obtain ⟨q, live⟩ := exists_queue held
    obtain ⟨past, stored, account, balanced⟩ := kept.live q live
    obtain ⟨next, taken, empty⟩ := drain held live account
    exact ⟨stored, next, balanced.elements, taken, empty⟩
  released := by
    intro both
    cases live : channel.queue? with
    | some q =>
      cases channel with
      | joined | producerOnly => exact absurd (both .producer) ((kept.ends .producer).mp rfl)
      | consumerOnly => exact absurd (both .consumer) ((kept.ends .consumer).mp rfl)
      | closed => cases live
    | none =>
      refine ⟨?_, (kept.gone live).1⟩
      cases channel <;> first | rfl | cases live

end Channel

/-- Elements are conserved. Whatever is done with the ends of a one-to-one queue, and in whichever
order they are closed, what it took in is what it gave out, then what it stores or has destroyed.
The queue with many ends is destroyed at once after any calls, also when its indices lie on both
sides of the largest word, and then the same holds. -/
theorem accepted_eq_given_append_destroyed :
    (∀ (capacity : UInt64) (start : Index capacity) (steps : List (Channel.Step α)),
      ∃ events channel, history Channel.step steps (.joined (.startingAt start)) =
        .ok (events, channel) ∧ channel.Settled steps events) ∧
    (∀ capacity, Mpmc.Admitted capacity → ∀ (position : UInt64) (calls : List (Mpmc.Call α)),
      ∃ events, ∃ q : Mpmc α capacity, ∃ stored,
        history Mpmc.answer calls (.startingAt position) = .ok (events, q) ∧
        Event.HandedBack events ∧ Event.accepted events = Event.given events ++ stored ∧
        Releases q.destroy
          (fun round => ((⟨q.dequeueIndex⟩ : Ticket capacity).advance round).position)
          q.enqueueIndex q.length stored) := by
  constructor
  · intro capacity start steps
    obtain ⟨events, channel, answers, kept⟩ := history_invariant Channel.Kept
      (fun _ _ _ kept now => kept.next now) steps (.joined (.startingAt start))
      (Channel.kept_joined start)
    exact ⟨events, channel, answers, kept.settled⟩
  · intro capacity admitted position calls
    obtain ⟨events, q, answers, stored, account, balanced⟩ :=
      Mpmc.history_after (α := α) admitted position.toNat calls
    rw [UInt64.ofNat_toNat] at answers
    exact ⟨events, q, stored, answers, balanced.handedBack, balanced.elements,
      account.releases admitted⟩

/-- Two elements with a number on either side of the largest word: the loop that destroys them goes
from the largest ticket up to one. -/
theorem released_across_the_word : Mpmc.Admitted 2 ∧
    (let q : Mpmc Nat 2 := ⟨1, .ofNat (2 ^ 64 - 1), #[1, 0], ⟨#[some 8, some 7]⟩⟩
    q.enqueueIndex < q.dequeueIndex ∧ Releases q.destroy
      (fun round => ((⟨q.dequeueIndex⟩ : Ticket 2).advance round).position)
      q.enqueueIndex q.length [7, 8]) := by
  obtain ⟨events, q, stored, answers, -, elements, releases⟩ :=
    (accepted_eq_given_append_destroyed (α := Nat)).2 2 Mpmc.admitted_two (.ofNat (2 ^ 64 - 1))
      [.enqueue 7, .enqueue 8]
  have run : history Mpmc.answer [.enqueue 7, .enqueue 8]
      (.startingAt (.ofNat (2 ^ 64 - 1)) : Mpmc Nat 2) =
      .ok ([.offered 7 .accepted, .offered 8 .accepted],
        ⟨1, .ofNat (2 ^ 64 - 1), #[1, 0], ⟨#[some 8, some 7]⟩⟩) := rfl
  obtain ⟨rfl, rfl⟩ := Prod.mk.inj (Except.ok.inj (run.symm.trans answers))
  obtain rfl : [7, 8] = stored := elements
  exact ⟨Mpmc.admitted_two, by decide, releases⟩

end RingQueue.Queue
