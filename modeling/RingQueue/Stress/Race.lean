import RingQueue.Queue.Mpmc
import RingQueue.Stress.Schedule

/-! A run with any number of producers and consumers. Producer `id` sends the values that leave
the remainder `id` when one is taken off and the rest is divided by the number of producers. The
consumers count together what they have taken and stop when that is everything. -/
namespace RingQueue

open RingQueue.Queue

structure Sender where
  sent : UInt64 := 0
  gaveUp : Bool := false
  deriving DecidableEq, Repr

/-- A consumer with what it took, latest first. -/
structure Receiver where
  taken : List UInt64 := []
  gaveUp : Bool := false
  deriving DecidableEq, Repr

structure Race (capacity : UInt64) where
  queue : Mpmc UInt64 capacity
  consumed : UInt64
  senders : Array Sender
  receivers : Array Receiver

namespace Race

variable {capacity : UInt64}

def start (producers consumers : UInt64) : Race capacity :=
  ⟨.empty, 0, .replicate producers.toNat {}, .replicate consumers.toNat {}⟩

/-- The value that producer `id` sends after `sent` others. -/
def valueAt (producers id sent : UInt64) : Except Fault UInt64 := do
  Exact.add (← Exact.add (← Exact.mul sent producers) id) 1

def produce (producers items : UInt64) (id : Nat) (late : Bool) (race : Race capacity) :
    Except Fault (Bool × Race capacity) :=
  match race with
  | ⟨queue, consumed, senders, receivers⟩ =>
    match senders[id]? with
    | none => .ok (false, ⟨queue, consumed, senders, receivers⟩)
    | some sender =>
      if sender.gaveUp || sender.sent = items then
        .ok (false, ⟨queue, consumed, senders, receivers⟩)
      else do
        let value ← valueAt producers (.ofNat id) sender.sent
        let (offer, queue) ← queue.enqueue value
        if offer.isAccepted then
          let sent ← Exact.add sender.sent 1
          return (true, ⟨queue, consumed, senders.set! id ⟨sent, false⟩, receivers⟩)
        else
          return (false, ⟨queue, consumed, senders.set! id ⟨sender.sent, late⟩, receivers⟩)

/-- A consumer looks at the counter before it asks the queue, and other consumers may have taken
items in between, or taken some that they have not counted yet: `behind` of them. -/
def consume (total : UInt64) (id : Nat) (late : Bool) (behind : Nat) (race : Race capacity) :
    Except Fault (Bool × Race capacity) :=
  match race with
  | ⟨queue, consumed, senders, receivers⟩ =>
    match receivers[id]? with
    | none => .ok (false, ⟨queue, consumed, senders, receivers⟩)
    | some receiver =>
      if receiver.gaveUp || total.toNat ≤ consumed.toNat - behind then
        .ok (false, ⟨queue, consumed, senders, receivers⟩)
      else do
        let (value, queue) ← queue.dequeue
        match value with
        | some value =>
          let consumed ← Exact.add consumed 1
          return (true, ⟨queue, consumed, senders,
            receivers.set! id ⟨value :: receiver.taken, false⟩⟩)
        | none =>
          return (false, ⟨queue, consumed, senders,
            receivers.set! id ⟨receiver.taken, late⟩⟩)

/-- The producers come before the consumers. -/
def act (producers items total : UInt64) : Act (Race capacity) := fun turn =>
  if turn.worker < producers.toNat then produce producers items turn.worker turn.late
  else consume total (turn.worker - producers.toNat) turn.late turn.behind

def sent (race : Race capacity) : UInt64 :=
  race.senders.foldl (fun sum sender => sum + sender.sent) 0

/-- What each consumer took, in order. -/
def batches (race : Race capacity) : List (List UInt64) :=
  race.receivers.toList.map fun receiver => receiver.taken.reverse

def finished (items total : UInt64) (race : Race capacity) : Bool :=
  race.senders.all (fun sender => sender.gaveUp || sender.sent = items) &&
    race.receivers.all (fun receiver => receiver.gaveUp || total ≤ race.consumed)

end Race
end RingQueue
