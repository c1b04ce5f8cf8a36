/-! Positions that only grow. A ticket numbers one enqueue and one dequeue; its slot is found by
masking, so the capacity is meant to be a power of two. All arithmetic is in 64-bit words and
goes on past their largest value. -/
namespace RingQueue.Ring

/-- A position in the sequence of all elements that ever pass through a ring of `capacity` slots. -/
structure Ticket (capacity : UInt64) where
  position : UInt64
  deriving DecidableEq, Repr

namespace Ticket

variable {capacity : UInt64}

def mask (capacity : UInt64) : UInt64 := capacity - 1

def slot (t : Ticket capacity) : UInt64 := t.position &&& mask capacity

def next (t : Ticket capacity) : Ticket capacity := ⟨t.position + 1⟩

/-- `count` tickets further on. -/
def advance (t : Ticket capacity) (count : Nat) : Ticket capacity := count.repeat next t

/-- The sequence number of the slot once this ticket's element is stored. -/
def published (t : Ticket capacity) : UInt64 := t.position + 1

/-- The sequence number of the slot once this ticket's element is taken: it waits for the
ticket one lap later. -/
def nextLap (t : Ticket capacity) : UInt64 := t.position + capacity

/-- Signed distance of a sequence number from the ticket. Zero: the slot is free for it.
Negative: the slot still holds an element of the lap before. -/
def lag (t : Ticket capacity) (sequence : UInt64) : Int64 := (sequence - t.position).toInt64

/-- Signed distance of a sequence number from the published one. Zero: the element is ready.
Negative: it has not been stored yet. -/
def fillLag (t : Ticket capacity) (sequence : UInt64) : Int64 :=
  (sequence - t.published).toInt64

/-- The first ticket at or after `start` that maps to `slot`. -/
def firstFrom (capacity start slot : UInt64) : Ticket capacity :=
  ⟨start + ((slot - start) &&& mask capacity)⟩

end Ticket
end RingQueue.Ring
