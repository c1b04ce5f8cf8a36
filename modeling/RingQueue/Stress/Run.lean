import RingQueue.Settings.Basic
import RingQueue.Stress.Race
import RingQueue.Stress.Relay
import RingQueue.Stress.Report
import RingQueue.Stress.Verdict

/-! Whole runs. A run is refused when it has too many items, or a capacity that no queue is built
for; otherwise it is played to its end and judged. -/
namespace RingQueue

open RingQueue.Number

inductive Refusal where
  | tooManyItems (producers items : UInt64)
  | unsupportedCapacity (capacity : UInt64)
  deriving DecidableEq, Repr

def Refusal.message : Refusal → String
  | tooManyItems producers items =>
    decimal producers.toNat ++ " producers x " ++ decimal items.toNat ++
      " items exceeds the limit of " ++ decimal Stress.maxItems ++ " items per run"
  | unsupportedCapacity capacity =>
    "unsupported capacity " ++ decimal capacity.toNat ++ "; choose one of " ++
      Stress.supportedCapacitiesText

/-- Why a run of these dimensions is refused, if it is. The item limit comes first. -/
def Stress.refusal? (stress : Stress) : Option Refusal :=
  if stress.totalItems? = none then
    some (.tooManyItems stress.producers stress.itemsPerProducer)
  else if stress.capacity ∉ Stress.supportedCapacities then
    some (.unsupportedCapacity stress.capacity)
  else none

/-- The time of a number of turns, in milliseconds. -/
def elapsedMs (turns : Nat) : Binary64 := .ofRatio false turns turnsPerMs

/-- Items in a second. -/
def throughput (items : UInt64) (turns : Nat) : Binary64 :=
  .ofRatio false (items.toNat * 1000 * turnsPerMs) (max turns 1)

def Relay.report {capacity : UInt64} (items : UInt64) (relay : Relay capacity) (turns : Nat) :
    Report where
  scenario := .spsc
  capacity := capacity
  producers := 1
  consumers := 1
  itemsSent := relay.sent
  itemsReceived := relay.check.received
  elapsedMs := elapsedMs turns
  throughput := throughput relay.check.received turns
  fifo := some relay.check.inOrder
  producerOrder := none
  exactlyOnce := relay.check.inOrder && relay.check.received == relay.sent
  timedOut := relay.sent < items || relay.check.received < items

def Race.report {capacity : UInt64} (stress : Stress) (total : UInt64) (race : Race capacity)
    (turns : Nat) : Except Fault Report := do
  let verdict ← Verdict.ofBatches stress.producers stress.itemsPerProducer race.batches
  return {
    scenario := .mpmc
    capacity := capacity
    producers := stress.producers
    consumers := stress.consumers
    itemsSent := race.sent
    itemsReceived := verdict.received
    elapsedMs := elapsedMs turns
    throughput := throughput verdict.received turns
    fifo := none
    producerOrder := some verdict.producerOrder
    exactlyOnce := verdict.exactlyOnce
    timedOut := race.sent < total || verdict.received < total }

def Stress.turnLimit (stress : Stress) : Nat := stress.timeoutMs.toNat * turnsPerMs

def Relay.run (stress : Stress) : Except Fault Report := do
  let items := stress.itemsPerProducer
  let play ← play (Relay.act items) 2 stress.turnLimit (2 * items.toNat)
    (Relay.start : Relay stress.capacity)
  return play.state.report items play.moved

def Race.run (stress : Stress) : Except Fault Report := do
  let items := stress.itemsPerProducer
  let total ← Exact.mul items stress.producers
  let play ← play (Race.act stress.producers items total)
    (stress.producers.toNat + stress.consumers.toNat) stress.turnLimit (2 * total.toNat)
    (Race.start stress.producers stress.consumers : Race stress.capacity)
  play.state.report stress total play.moved

/-- How a run can end. -/
inductive RunOutcome where
  | refused (refusal : Refusal)
  | reported (report : Report)
  | broken (fault : Fault)
  deriving DecidableEq, Repr

def Scenario.run (scenario : Scenario) (stress : Stress) : RunOutcome :=
  match stress.refusal? with
  | some refusal => .refused refusal
  | none =>
    let result := match scenario with
      | .spsc => Relay.run stress
      | .mpmc => Race.run stress
    match result with
    | .ok report => .reported report
    | .error fault => .broken fault

end RingQueue
