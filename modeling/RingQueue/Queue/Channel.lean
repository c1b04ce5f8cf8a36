import RingQueue.Queue.Spsc

/-! The two ends of a one-to-one queue. Each end can be closed once, in either order. Closing the
first end destroys nothing; with the second end the queue goes, and what it still stores is
destroyed. -/
namespace RingQueue.Queue

open RingQueue.Ring

/-- A queue together with which of its ends are still held. -/
inductive Channel (α : Type u) (capacity : UInt64) where
  | joined (queue : Spsc α capacity)
  | producerOnly (queue : Spsc α capacity)
  | consumerOnly (queue : Spsc α capacity)
  | closed

namespace Channel

variable {α : Type u} {capacity : UInt64}

def new : Channel α capacity := joined .empty

def producer? : Channel α capacity → Option (Spsc α capacity)
  | joined queue | producerOnly queue => some queue
  | consumerOnly _ | closed => none

def consumer? : Channel α capacity → Option (Spsc α capacity)
  | joined queue | consumerOnly queue => some queue
  | producerOnly _ | closed => none

/-- Offers an element through the producer's end, if it is still held. -/
def push (channel : Channel α capacity) (value : α) :
    Except Fault (Option (Offer α) × Channel α capacity) :=
  match channel with
  | joined queue => (queue.push value).map fun (offer, queue) => (some offer, joined queue)
  | producerOnly queue =>
    (queue.push value).map fun (offer, queue) => (some offer, producerOnly queue)
  | consumerOnly queue => .ok (none, consumerOnly queue)
  | closed => .ok (none, closed)

/-- Takes an element through the consumer's end, if it is still held. -/
def pop (channel : Channel α capacity) :
    Except Fault (Option (Option α) × Channel α capacity) :=
  match channel with
  | joined queue => queue.pop.map fun (value, queue) => (some value, joined queue)
  | consumerOnly queue => queue.pop.map fun (value, queue) => (some value, consumerOnly queue)
  | producerOnly queue => .ok (none, producerOnly queue)
  | closed => .ok (none, closed)

/-- Closes the producer's end. Also answers what was destroyed with the queue. -/
def closeProducer : Channel α capacity → Except Fault (List α × Channel α capacity)
  | joined queue => .ok ([], consumerOnly queue)
  | producerOnly queue => queue.destroy.map fun destroyed => (destroyed, closed)
  | channel => .ok ([], channel)

/-- Closes the consumer's end. Also answers what was destroyed with the queue. -/
def closeConsumer : Channel α capacity → Except Fault (List α × Channel α capacity)
  | joined queue => .ok ([], producerOnly queue)
  | consumerOnly queue => queue.destroy.map fun destroyed => (destroyed, closed)
  | channel => .ok ([], channel)

end Channel
end RingQueue.Queue
