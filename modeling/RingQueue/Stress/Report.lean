import RingQueue.Number.Binary64

/-! The outcome of a run. -/
namespace RingQueue

inductive Scenario where
  | spsc
  | mpmc
  deriving DecidableEq, Repr

structure Report where
  scenario : Scenario
  capacity : UInt64
  producers : UInt64
  consumers : UInt64
  itemsSent : UInt64
  itemsReceived : UInt64
  elapsedMs : Number.Binary64
  throughput : Number.Binary64
  /-- Whether all items came in order. Judged with one producer and one consumer. -/
  fifo : Option Bool
  /-- Whether each consumer saw every producer's items in order. Judged with many. -/
  producerOrder : Option Bool
  exactlyOnce : Bool
  timedOut : Bool
  deriving DecidableEq, Repr

namespace Report

/-- A run passes when it ended in time and no check that was made failed. -/
def passed (report : Report) : Bool :=
  !report.timedOut && report.exactlyOnce && report.fifo.getD true &&
    report.producerOrder.getD true

end Report
end RingQueue
