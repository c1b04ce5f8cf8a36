import RingQueue.Number.Power

/-! What must never happen. Operations whose safety is a matter of proof answer a fault where they
would go wrong, so "this is always justified" is said of a run as: it ends without a fault. -/
namespace RingQueue

inductive Fault where
  | outOfRange (index size : Nat)
  /-- A cell was read that holds no element. -/
  | vacantRead (slot : UInt64)
  /-- A cell was written whose element had not been taken. -/
  | occupiedWrite (slot : UInt64)
  /-- The claim loop met a sequence number ahead of its own ticket. A lone caller reads the same
  number again and never leaves the loop. -/
  | endlessClaim (position : UInt64)
  /-- The exact result does not fit in a 64-bit word. -/
  | overflow
  | divisionByZero
  /-- A bounded loop used up its bound. -/
  | unfinished
  deriving DecidableEq, Repr

/-! Word arithmetic that has to be exact. -/
namespace Exact

def add (a b : UInt64) : Except Fault UInt64 :=
  if a.toNat + b.toNat < 2 ^ 64 then .ok (a + b) else .error .overflow

def mul (a b : UInt64) : Except Fault UInt64 :=
  if a.toNat * b.toNat < 2 ^ 64 then .ok (a * b) else .error .overflow

def sub (a b : UInt64) : Except Fault UInt64 :=
  if b ≤ a then .ok (a - b) else .error .overflow

def mod (a b : UInt64) : Except Fault UInt64 :=
  if b = 0 then .error .divisionByZero else .ok (a % b)

def get (items : Array α) (index : UInt64) : Except Fault α :=
  match items[index.toNat]? with
  | some item => .ok item
  | none => .error (.outOfRange index.toNat items.size)

/-- Replaces the element of an array at a word index. -/
def set (items : Array α) (index : UInt64) (item : α) : Except Fault (Array α) :=
  if index.toNat < items.size then .ok (items.set! index.toNat item)
  else .error (.outOfRange index.toNat items.size)

end Exact
end RingQueue
