import RingQueue.Program
import RingQueue.Proofs.CommandLine.Request
import RingQueue.Proofs.Stress.Outcome
import RingQueue.Proofs.Stress.ReportJson
import RingQueue.Proofs.Stress.ReportReading

/-! How the program ends. Arguments, settings, the filter of the log and the settings of the run
are looked at in this order, and the first that does not hold good decides. What is given by hand is
put in its place field by field, and what is printed of a run tells its report. -/
namespace RingQueue

/-- A failure before any run decides: nothing is printed as a result, no run is begun, and the
program fails. -/
structure Outcome.Stopped (outcome : Outcome) (failure : Failure) (stdout : String) : Prop where
  ending : outcome.ending = .failed failure
  empty : stdout = ""
  code : outcome.ending.exitCode = 1
  idle : Log.Record.startingRun ∉ Log.Record.ofEnding outcome.ending
  unlogged : Log.Record.startingRun ∉ outcome.log

namespace World

variable {world : World} {words : List String} {line : CommandLine} {loaded settings : Settings}
variable {filter : Log.Filter}

variable {scenario : Scenario}

end World

namespace World

variable {world : World} {words : List String} {line : CommandLine} {colours : Bool}
variable {scenario : Scenario}

end World
end RingQueue
