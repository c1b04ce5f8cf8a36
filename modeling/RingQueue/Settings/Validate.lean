import RingQueue.Number.Digits
import RingQueue.Settings.Basic
import RingQueue.Text.Blank

/-! Which settings a run may start from. The rules are tried in order and the first that is broken
is reported. -/
namespace RingQueue

open RingQueue.Number

inductive Invalid where
  | emptyLevel
  | producers
  | consumers
  | noItems
  | tooManyItems
  | capacity (given : UInt64)
  | noTime
  deriving DecidableEq, Repr

def Invalid.message : Invalid → String
  | emptyLevel => "logging.level cannot be empty"
  | producers => "stress.producers must be 1..=" ++ decimal Stress.maxWorkers.toNat
  | consumers => "stress.consumers must be 1..=" ++ decimal Stress.maxWorkers.toNat
  | noItems => "stress.items_per_producer must be > 0"
  | tooManyItems =>
    "stress.producers * stress.items_per_producer must be <= " ++ decimal Stress.maxItems
  | capacity given =>
    "stress.capacity must be one of " ++ Stress.supportedCapacitiesText ++ ", got " ++
      decimal given.toNat
  | noTime => "stress.timeout_ms must be > 0"

namespace Stress

def workersInRange (count : UInt64) : Bool := 1 ≤ count && count ≤ maxWorkers

/-- The first rule that the dimensions of a run break. -/
def invalid? (stress : Stress) : Option Invalid :=
  if !workersInRange stress.producers then some .producers
  else if !workersInRange stress.consumers then some .consumers
  else if stress.itemsPerProducer = 0 then some .noItems
  else if stress.totalItems? = none then some .tooManyItems
  else if stress.capacity ∉ supportedCapacities then some (.capacity stress.capacity)
  else if stress.timeoutMs = 0 then some .noTime
  else none

end Stress

def Settings.invalid? (settings : Settings) : Option Invalid :=
  if Text.trim settings.logging.level.toList = [] then some .emptyLevel
  else settings.stress.invalid?

end RingQueue
