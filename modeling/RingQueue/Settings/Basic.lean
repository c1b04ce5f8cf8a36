import RingQueue.Number.Power

/-! What the program can be told, with the values that hold when nothing is said. -/
namespace RingQueue

/-- How much is logged, and in which form. -/
structure Logging where
  /-- Filter directives such as `info` or `name=debug`. -/
  level : String := "info"
  /-- Records are written as JSON lines. -/
  json : Bool := false
  deriving DecidableEq, Repr

/-- The dimensions of a stress run. -/
structure Stress where
  producers : UInt64 := 2
  consumers : UInt64 := 1
  itemsPerProducer : UInt64 := 1024
  capacity : UInt64 := 1024
  pinThreads : Bool := false
  timeoutMs : UInt64 := 10000
  deriving DecidableEq, Repr

structure Settings where
  env : String
  logging : Logging := {}
  stress : Stress := {}
  deriving DecidableEq, Repr

namespace Stress

def supportedCapacities : List UInt64 := [2, 4, 64, 1024, 65536]

def maxWorkers : UInt64 := 256

def maxItems : Nat := 2 ^ 32

/-- The items of all producers together, unless they are too many for one run. -/
def totalItems? (stress : Stress) : Option UInt64 :=
  if stress.itemsPerProducer.toNat * stress.producers.toNat ≤ maxItems then
    some (stress.itemsPerProducer * stress.producers)
  else none

/-- The time limit in nanoseconds. -/
def timeoutNs (stress : Stress) : Nat := stress.timeoutMs.toNat * 1000000

/-- The supported capacities as they are listed in messages. -/
def supportedCapacitiesText : String :=
  "[" ++ ", ".intercalate (supportedCapacities.map fun c => toString c.toNat) ++ "]"

end Stress
end RingQueue
