import RingQueue.Fault
import Std.Data.HashMap

/-! Judging what consumers took. With `producers` producers and `items` items each, producer `p`
owns the values `p + 1`, `p + 1 + producers` and so on, and sends them in increasing order. A
verdict says whether each value from one to the total was taken exactly once and whether, within
each consumer's batch, every producer's values came in order. -/
namespace RingQueue

/-- The last value seen from each of `size` producers, zero before the first. It stands for a vector
of `size` zeros, of which only the places that were written are kept; that there is room for the
whole vector is taken for granted. -/
structure LastSeen where
  size : UInt64
  values : Std.HashMap UInt64 UInt64

namespace LastSeen

def none (size : UInt64) : LastSeen := ⟨size, ∅⟩

def get (last : LastSeen) (producer : UInt64) : Except Fault UInt64 :=
  if producer < last.size then .ok (last.values.getD producer 0)
  else .error (.outOfRange producer.toNat last.size.toNat)

def set (last : LastSeen) (producer value : UInt64) : Except Fault LastSeen :=
  match last with
  | ⟨size, values⟩ =>
    if producer < size then .ok ⟨size, values.insert producer value⟩
    else .error (.outOfRange producer.toNat size.toNat)

end LastSeen

structure Verdict where
  received : UInt64
  exactlyOnce : Bool
  producerOrder : Bool
  deriving DecidableEq, Repr

namespace Verdict

/-- The product, or the largest word if it does not fit. -/
def expectedTotal (producers items : UInt64) : UInt64 :=
  if producers.toNat * items.toNat < 2 ^ 64 then producers * items else .ofNat (2 ^ 64 - 1)

/-- What is known after some of the values. Which values came is only kept when their number is
right, so that it takes no more room than the values themselves. -/
structure Progress where
  seen : Option (Array Bool)
  exactlyOnce : Bool
  producerOrder : Bool

def Progress.start (received total : UInt64) : Progress :=
  if received = total then ⟨some (.replicate total.toNat false), true, true⟩
  else ⟨none, false, true⟩

/-- Marks a value as seen. The answer also says whether it was new. -/
def mark (seen : Option (Array Bool)) (value : UInt64) :
    Except Fault (Bool × Option (Array Bool)) :=
  match seen with
  | none => .ok (true, none)
  | some seen => do
    let index ← Exact.sub value 1
    let before ← Exact.get seen index
    let seen ← Exact.set seen index true
    return (!before, some seen)

/-- Takes one value of a batch into account. Values that no producer owns only break the first
check. -/
def value (producers total : UInt64) (state : Progress × LastSeen) (v : UInt64) :
    Except Fault (Progress × LastSeen) :=
  match state with
  | (⟨seen, exactlyOnce, producerOrder⟩, last) =>
    if v = 0 ∨ total < v then .ok (⟨seen, false, producerOrder⟩, last)
    else do
      let (fresh, seen) ← mark seen v
      let rank ← Exact.sub v 1
      let producer ← Exact.mod rank producers
      let before ← last.get producer
      let last ← last.set producer v
      return (⟨seen, exactlyOnce && fresh, producerOrder && before < v⟩, last)

/-- Takes a consumer's batch into account. Order is judged within the batch alone. -/
def batch (producers total : UInt64) (progress : Progress) (values : List UInt64) :
    Except Fault Progress := do
  let (progress, _) ← values.foldlM (value producers total) (progress, LastSeen.none producers)
  return progress

def ofBatches (producers items : UInt64) (batches : List (List UInt64)) :
    Except Fault Verdict := do
  let total := expectedTotal producers items
  let received := UInt64.ofNat batches.flatten.length
  let progress ← batches.foldlM (batch producers total) (.start received total)
  let complete := match progress.seen with
    | some seen => seen.all id
    | none => false
  return ⟨received, progress.exactlyOnce && complete, progress.producerOrder⟩

end Verdict
end RingQueue
