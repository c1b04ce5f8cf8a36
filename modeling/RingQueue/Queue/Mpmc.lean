import RingQueue.Queue.Cells
import RingQueue.Queue.Offer
import RingQueue.Ring.Ticket

/-! A bounded queue with any number of producers and consumers. Each slot carries a sequence
number that says which ticket it waits for: the ticket itself while it is free, one more once it
is filled, and the ticket one lap later once it is drained. An operation looks at one slot only,
and the sign of a wrapped difference tells it to claim, to give up or to look again. The
operations here are whole calls: no other call takes effect between their parts. -/
namespace RingQueue.Queue

open RingQueue.Ring

structure Mpmc (α : Type u) (capacity : UInt64) where
  enqueueIndex : UInt64
  dequeueIndex : UInt64
  sequences : Array UInt64
  cells : Cells α

namespace Mpmc

variable {α : Type u} {capacity : UInt64}

/-- The empty queue after `position` elements have passed through it: each slot waits for the
first ticket from there on that maps to it. -/
def startingAt (position : UInt64) : Mpmc α capacity where
  enqueueIndex := position
  dequeueIndex := position
  sequences := .ofFn fun slot : Fin capacity.toNat =>
    (Ticket.firstFrom capacity position (.ofNat slot)).position
  cells := .vacant capacity.toNat

def empty : Mpmc α capacity := startingAt 0

/-- The number of elements between two index readings. A stale reading may put the first behind
the second, which counts as nothing stored, and no answer exceeds the capacity. -/
def lengthBetween (capacity enqueued dequeued : UInt64) : UInt64 :=
  let difference := (enqueued - dequeued).toInt64
  if difference < 0 then 0
  else if capacity.toInt64 < difference then capacity
  else difference.toUInt64

def length (q : Mpmc α capacity) : UInt64 :=
  lengthBetween capacity q.enqueueIndex q.dequeueIndex

def isEmpty (q : Mpmc α capacity) : Bool := q.length == 0

/-- What the slot of the current ticket tells a caller. -/
inductive Claim where
  /-- The slot is ready for this ticket. -/
  | granted
  /-- The slot has not come round: the queue is full, or empty. -/
  | refused
  /-- Another caller took the ticket meanwhile: read the index again. -/
  | overtaken
  deriving DecidableEq, Repr

/-- Only the sign of the distance counts. -/
def Claim.ofLag (lag : Int64) : Claim :=
  if lag = 0 then granted else if lag < 0 then refused else overtaken

/-- Stores an element in the slot of the next ticket, or hands it back when that slot still holds
an element of the lap before. -/
def enqueue (q : Mpmc α capacity) (value : α) : Except Fault (Offer α × Mpmc α capacity) :=
  match q with
  | ⟨enqueueIndex, dequeueIndex, sequences, cells⟩ =>
    let ticket : Ticket capacity := ⟨enqueueIndex⟩
    match sequences[ticket.slot.toNat]? with
    | none => .error (.outOfRange ticket.slot.toNat sequences.size)
    | some sequence =>
      match Claim.ofLag (ticket.lag sequence) with
      | .overtaken => .error (.endlessClaim enqueueIndex)
      | .refused => .ok (.full value, ⟨enqueueIndex, dequeueIndex, sequences, cells⟩)
      | .granted =>
        match cells.put ticket.slot value with
        | .error fault => .error fault
        | .ok cells =>
          .ok (.accepted, ⟨ticket.next.position, dequeueIndex,
            sequences.set! ticket.slot.toNat ticket.published, cells⟩)

/-- Takes the element of the next ticket, unless it has not been stored yet. -/
def dequeue (q : Mpmc α capacity) : Except Fault (Option α × Mpmc α capacity) :=
  match q with
  | ⟨enqueueIndex, dequeueIndex, sequences, cells⟩ =>
    let ticket : Ticket capacity := ⟨dequeueIndex⟩
    match sequences[ticket.slot.toNat]? with
    | none => .error (.outOfRange ticket.slot.toNat sequences.size)
    | some sequence =>
      match Claim.ofLag (ticket.fillLag sequence) with
      | .overtaken => .error (.endlessClaim dequeueIndex)
      | .refused => .ok (none, ⟨enqueueIndex, dequeueIndex, sequences, cells⟩)
      | .granted =>
        match cells.take ticket.slot with
        | .error fault => .error fault
        | .ok (value, cells) =>
          .ok (some value, ⟨enqueueIndex, ticket.next.position,
            sequences.set! ticket.slot.toNat ticket.nextLap, cells⟩)

/-- The next ticket is nearer to any other one by one. -/
theorem remaining_next_lt {position stop : UInt64} (ne : position ≠ stop) :
    (stop - (position + 1)).toNat < (stop - position).toNat := by
  have ne : position.toNat ≠ stop.toNat := fun h => ne (UInt64.toNat_inj.mp h)
  have hp := position.toNat_lt
  have hs := stop.toNat_lt
  simp only [UInt64.toNat_sub, UInt64.toNat_add, UInt64.reduceToNat]
  omega

/-- The elements that are destroyed with the queue, oldest first: the loop runs from one ticket to
another and compares for equality only, so it also crosses the largest word. -/
def destroyFrom (cells : Cells α) (ticket : Ticket capacity) (stop : UInt64) :
    Except Fault (List α) :=
  if _h : ticket.position = stop then .ok []
  else
    match cells.take ticket.slot with
    | .error fault => .error fault
    | .ok (value, cells) => (destroyFrom cells ticket.next stop).map (value :: ·)
termination_by (stop - ticket.position).toNat
decreasing_by exact remaining_next_lt _h

def destroy (q : Mpmc α capacity) : Except Fault (List α) :=
  destroyFrom q.cells (⟨q.dequeueIndex⟩ : Ticket capacity) q.enqueueIndex

end Mpmc
end RingQueue.Queue
