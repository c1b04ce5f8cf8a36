import RingQueue.Fault

/-! Storage cells of a queue. A cell is vacant or holds one element; nothing else records which.
The queues read and write cells only through `take` and `put`, and a read of a vacant cell, a
write over an element and an index out of range are faults, so "this access is justified" can be
said of a run: it ends without a fault. -/
namespace RingQueue.Queue

/-- The cells of a ring, by slot number. -/
structure Cells (α : Type u) where
  contents : Array (Option α)
  deriving Repr

namespace Cells

variable {α : Type u}

def vacant (count : Nat) : Cells α := ⟨.replicate count none⟩

def size (cells : Cells α) : Nat := cells.contents.size

/-- The element in a slot, if there is one. -/
def get? (cells : Cells α) (slot : UInt64) : Option α := (cells.contents[slot.toNat]?).join

/-- Moves the element of a slot out and leaves the slot vacant. -/
def take (cells : Cells α) (slot : UInt64) : Except Fault (α × Cells α) :=
  match cells with
  | ⟨contents⟩ =>
    match contents[slot.toNat]? with
    | none => .error (.outOfRange slot.toNat contents.size)
    | some none => .error (.vacantRead slot)
    | some (some value) => .ok (value, ⟨contents.set! slot.toNat none⟩)

/-- Stores an element in a vacant slot. -/
def put (cells : Cells α) (slot : UInt64) (value : α) : Except Fault (Cells α) :=
  match cells with
  | ⟨contents⟩ =>
    match contents[slot.toNat]? with
    | none => .error (.outOfRange slot.toNat contents.size)
    | some (some _) => .error (.occupiedWrite slot)
    | some none => .ok ⟨contents.set! slot.toNat (some value)⟩

end Cells
end RingQueue.Queue
