import RingQueue.Queue.Spsc
import RingQueue.Stress.Schedule

/-! A run with one producer and one consumer. The producer sends `1`, `2` and so on; the consumer
expects them in this order and, after a value that it did not expect, the one that follows it. -/
namespace RingQueue

open RingQueue.Queue

/-- What the consumer has noticed so far. -/
structure OrderCheck where
  expected : UInt64 := 1
  received : UInt64 := 0
  inOrder : Bool := true
  deriving DecidableEq, Repr

/-- After the largest word the expectation starts over from zero; with no more values than there are
words, none is left to be compared with it then. -/
def OrderCheck.take (check : OrderCheck) (value : UInt64) : Except Fault OrderCheck := do
  let received ← Exact.add check.received 1
  return ⟨value + 1, received, check.inOrder && value == check.expected⟩

structure Relay (capacity : UInt64) where
  queue : Spsc UInt64 capacity
  sent : UInt64
  producerGaveUp : Bool
  check : OrderCheck
  consumerGaveUp : Bool

namespace Relay

variable {capacity : UInt64}

def start : Relay capacity := ⟨.empty, 0, false, {}, false⟩

def produce (items : UInt64) (late : Bool) (relay : Relay capacity) :
    Except Fault (Bool × Relay capacity) :=
  match relay with
  | ⟨queue, sent, producerGaveUp, check, consumerGaveUp⟩ =>
    if producerGaveUp || sent = items then
      .ok (false, ⟨queue, sent, producerGaveUp, check, consumerGaveUp⟩)
    else do
      let value ← Exact.add sent 1
      let (offer, queue) ← queue.push value
      if offer.isAccepted then return (true, ⟨queue, value, false, check, consumerGaveUp⟩)
      else return (false, ⟨queue, sent, late, check, consumerGaveUp⟩)

def consume (items : UInt64) (late : Bool) (relay : Relay capacity) :
    Except Fault (Bool × Relay capacity) :=
  match relay with
  | ⟨queue, sent, producerGaveUp, check, consumerGaveUp⟩ =>
    if consumerGaveUp || items ≤ check.received then
      .ok (false, ⟨queue, sent, producerGaveUp, check, consumerGaveUp⟩)
    else do
      let (value, queue) ← queue.pop
      match value with
      | some value =>
        let check ← check.take value
        return (true, ⟨queue, sent, producerGaveUp, check, false⟩)
      | none => return (false, ⟨queue, sent, producerGaveUp, check, late⟩)

/-- The producer is worker zero. -/
def act (items : UInt64) : Act (Relay capacity) := fun turn =>
  if turn.worker = 0 then produce items turn.late else consume items turn.late

def finished (items : UInt64) (relay : Relay capacity) : Bool :=
  (relay.producerGaveUp || relay.sent = items) &&
    (relay.consumerGaveUp || items ≤ relay.check.received)

end Relay
end RingQueue
