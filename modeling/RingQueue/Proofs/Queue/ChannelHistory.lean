import RingQueue.Proofs.Queue.Fifo
import RingQueue.Proofs.Queue.Spsc
import RingQueue.Queue.Channel

/-! Histories of whole calls on the two ends of a queue. Main result: whichever end is asked and from
whichever slot the queue starts, every answer is that of a list with room for `capacity` elements,
and that list stands in the cells from the head up to the tail. -/
namespace RingQueue.Queue

open RingQueue.Ring

/-- What either end may ask of the queue. -/
inductive Question where
  | length
  | isEmpty
  | isFull
  deriving DecidableEq, Repr

variable {α : Type u} {capacity : UInt64}

def Question.ask (q : Spsc α capacity) : Question → Event α
  | length => .counted q.length.toNat
  | isEmpty => .told q.isEmpty
  | isFull => .told q.isFull

def Question.fifo (capacity : Nat) (stored : List α) : Question → Event α
  | length => .counted stored.length
  | isEmpty => .told stored.isEmpty
  | isFull => .told (stored.length == capacity)

namespace Spsc.Account

variable {q : Spsc α capacity} {past : Nat} {stored : List α}

theorem ask (account : q.Account past stored) (question : Question) :
    question.ask q = question.fifo capacity.toNat stored := by
  cases question with
  | length => exact congrArg Event.counted account.length_eq
  | isEmpty => exact congrArg Event.told account.isEmpty_eq
  | isFull => exact congrArg Event.told account.isFull_eq

theorem push (account : q.Account past stored) (value : α) :
    ∃ offer next after, q.push value = .ok (offer, next) ∧ next.Account past after ∧
      Fifo.offer capacity.toNat value stored = (.offered value offer, after) := by
  by_cases free : stored.length < capacity.toNat
  · obtain ⟨next, pushed, kept⟩ := account.push_accepted free value
    exact ⟨_, next, _, pushed, kept, if_pos free⟩
  · have full : stored.length = capacity.toNat := by
      have := account.room
      omega
    exact ⟨_, q, _, account.push_full full value, account, if_neg free⟩

theorem pop (account : q.Account past stored) :
    ∃ value next later after, q.pop = .ok (value, next) ∧ next.Account later after ∧
      Fifo.take stored = (.taken value, after) := by
  cases stored with
  | nil => exact ⟨_, q, past, [], account.pop_empty, account, rfl⟩
  | cons oldest rest =>
    obtain ⟨next, popped, kept⟩ := account.pop_oldest
    exact ⟨_, next, past + 1, rest, popped, kept, rfl⟩

end Spsc.Account

/-- The two ends of a queue. -/
inductive Side where
  | producer
  | consumer
  deriving DecidableEq, Repr

namespace Channel

inductive Call (α : Type u) where
  | push (value : α)
  | pop
  | ask (side : Side) (question : Question)
  deriving DecidableEq, Repr

/-- The queue as one end sees it, if that end is still held. -/
def end? : Side → Channel α capacity → Option (Spsc α capacity)
  | .producer, channel => channel.producer?
  | .consumer, channel => channel.consumer?

def answer : Call α → Channel α capacity → Except Fault (Event α × Channel α capacity)
  | .push value, channel => (channel.push value).map fun (offer, channel) =>
    ((offer.map (Event.offered value)).getD .absent, channel)
  | .pop, channel => channel.pop.map fun (value, channel) =>
    ((value.map Event.taken).getD .absent, channel)
  | .ask side question, channel => .ok (((channel.end? side).map question.ask).getD .absent, channel)

/-- What a list with room for `capacity` elements answers, to whichever end. -/
def Call.fifo (capacity : Nat) : Call α → List α → Event α × List α
  | push value, stored => Fifo.offer capacity value stored
  | pop, stored => Fifo.take stored
  | ask _ question, stored => (question.fifo capacity stored, stored)

/-- Both ends are held and the queue stores just these elements, oldest first. -/
def Stores (channel : Channel α capacity) (stored : List α) : Prop :=
  ∃ q past, channel = joined q ∧ q.Account past stored

theorem Stores.answer {channel : Channel α capacity} {stored : List α}
    (stores : channel.Stores stored) (call : Call α) :
    ∃ next, answer call channel = .ok ((call.fifo capacity.toNat stored).1, next) ∧
      next.Stores (call.fifo capacity.toNat stored).2 := by
  obtain ⟨q, past, rfl, account⟩ := stores
  cases call with
  | push value =>
    obtain ⟨offer, next, after, pushed, kept, same⟩ := account.push value
    simp only [Channel.answer, Channel.push, Call.fifo, pushed, same]
    exact ⟨joined next, rfl, next, past, rfl, kept⟩
  | pop =>
    obtain ⟨value, next, later, after, popped, kept, same⟩ := account.pop
    simp only [Channel.answer, Channel.pop, Call.fifo, popped, same]
    exact ⟨joined next, rfl, next, later, rfl, kept⟩
  | ask side question =>
    refine ⟨joined q, ?_, q, past, rfl, account⟩
    cases side <;> simp [Channel.answer, end?, producer?, consumer?, Call.fifo, account.ask]

/-- Every history of calls ends without a fault and has the answers of a list with room for
`capacity` elements, and what the list then stores stands in the cells from the head up to the tail.
It makes no difference from which slot on the queue was empty at first. -/
theorem history_joined_eq_fifo (start : Index capacity) (calls : List (Call α)) :
    ∃ q : Spsc α capacity,
      history answer calls (joined (.startingAt start)) =
        .ok ((Fifo.history (Call.fifo capacity.toNat) calls []).1, joined q) ∧
      q.head.slot ≤ capacity ∧ q.tail.slot ≤ capacity ∧ q.cells.size = capacity.toNat + 1 ∧
      (q.head.upTo q.tail).map (fun i => q.cells.get? i.slot) =
        (Fifo.history (Call.fifo capacity.toNat) calls []).2.map some := by
  obtain ⟨channel, answers, q, past, rfl, account⟩ := Fifo.history_simulates Stores
    (fun call _ _ stores => stores.answer call) calls (joined (.startingAt start)) []
    ⟨_, _, rfl, Spsc.account_startingAt start⟩
  exact ⟨q, answers, q.head.slot_le, q.tail.slot_le, account.size, account.contents_eq⟩

/-- A new queue starts at the first slot. -/
example : (new : Channel α capacity) = joined (.startingAt .zero) := rfl

end Channel
end RingQueue.Queue
