import RingQueue.Queue.Cells
import RingQueue.Queue.Offer
import RingQueue.Ring.Index

/-! A bounded queue with one producer and one consumer. The elements stand in the cells from
`head` up to, but not including, `tail`; the ring has one cell more than the capacity, so equal
ends mean empty and a tail right behind the head means full. -/
namespace RingQueue.Queue

open RingQueue.Ring

structure Spsc (α : Type u) (capacity : UInt64) where
  head : Index capacity
  tail : Index capacity
  cells : Cells α

namespace Spsc

variable {α : Type u} {capacity : UInt64}

/-- An empty queue whose first element will go to slot `i`. -/
def startingAt (i : Index capacity) : Spsc α capacity :=
  ⟨i, i, .vacant (capacity.toNat + 1)⟩

def empty : Spsc α capacity := startingAt .zero

def isEmpty (q : Spsc α capacity) : Bool := q.head == q.tail

def isFull (q : Spsc α capacity) : Bool := q.tail.next == q.head

def length (q : Spsc α capacity) : UInt64 := q.head.distanceTo q.tail

/-- Stores an element at the tail, or hands it back when the queue is full. -/
def push (q : Spsc α capacity) (value : α) : Except Fault (Offer α × Spsc α capacity) :=
  match q with
  | ⟨head, tail, cells⟩ =>
    if tail.next = head then .ok (.full value, ⟨head, tail, cells⟩)
    else
      match cells.put tail.slot value with
      | .error fault => .error fault
      | .ok cells => .ok (.accepted, ⟨head, tail.next, cells⟩)

/-- Takes the element at the head, unless the queue is empty. -/
def pop (q : Spsc α capacity) : Except Fault (Option α × Spsc α capacity) :=
  match q with
  | ⟨head, tail, cells⟩ =>
    if head = tail then .ok (none, ⟨head, tail, cells⟩)
    else
      match cells.take head.slot with
      | .error fault => .error fault
      | .ok (value, cells) => .ok (some value, ⟨head.next, tail, cells⟩)

/-- The elements that are destroyed with the queue, oldest first: the loop runs from the head to
the tail and compares for equality only. -/
def destroyFrom (cells : Cells α) (head tail : Index capacity) : Except Fault (List α) :=
  if _h : head = tail then .ok []
  else
    match cells.take head.slot with
    | .error fault => .error fault
    | .ok (value, cells) => (destroyFrom cells head.next tail).map (value :: ·)
termination_by (head.distanceTo tail).toNat
decreasing_by exact Index.distanceTo_next_lt _h

def destroy (q : Spsc α capacity) : Except Fault (List α) := destroyFrom q.cells q.head q.tail

end Spsc
end RingQueue.Queue
