import RingQueue.Settings.Basic

/-! What the program is asked to do. -/
namespace RingQueue

/-- How a report is printed. -/
inductive OutputFormat where
  | pretty
  | json
  deriving DecidableEq, Repr

/-- The dimensions of a run that are given by hand. -/
structure Overrides where
  items : Option UInt64 := none
  capacity : Option UInt64 := none
  pin : Bool := false
  timeoutMs : Option UInt64 := none
  deriving DecidableEq, Repr

/-- The dimensions of a run with those given by hand in place of the settings'. -/
def Overrides.apply (overrides : Overrides) (stress : Stress) : Stress where
  producers := stress.producers
  consumers := stress.consumers
  itemsPerProducer := overrides.items.getD stress.itemsPerProducer
  capacity := overrides.capacity.getD stress.capacity
  pinThreads := overrides.pin || stress.pinThreads
  timeoutMs := overrides.timeoutMs.getD stress.timeoutMs

inductive Command where
  | spsc (overrides : Overrides)
  | mpmc (overrides : Overrides) (producers consumers : Option UInt64)
  /-- Prints the settings, or else their schema. -/
  | config (schema : Bool)
  deriving DecidableEq, Repr

structure CommandLine where
  output : OutputFormat := .pretty
  configDir : Option String := none
  verbose : Bool := false
  command : Command
  deriving DecidableEq, Repr

end RingQueue
