import RingQueue.CommandLine.Help
import RingQueue.CommandLine.Reader
import RingQueue.Log.Filter
import RingQueue.Settings.Load
import RingQueue.Settings.Schema
import RingQueue.Stress.ReportText
import RingQueue.Stress.Run

/-! The whole program, from arguments, variables and files to what it prints and logs. Settings are
loaded and have to be valid before anything given by hand counts, and a run has to be valid with
what is given by hand. -/
namespace RingQueue

/-- Why the program stops without a result. -/
inductive Failure where
  | load (error : LoadError)
  | setup (error : SetupError)
  | invalid (rule : Invalid)
  | refused (refusal : Refusal)
  | broken (fault : Fault)
  deriving DecidableEq, Repr

/-- The message without its cause. -/
def Failure.message : Failure → String
  | load error => error.message
  | setup error => error.message
  | invalid rule => rule.message
  | refused refusal => refusal.message
  | broken _ => "worker thread panicked"

/-- How the program ends. -/
inductive Ending where
  /-- The arguments were not carried out. -/
  | usage (error : CommandLine.UsageError)
  | failed (failure : Failure)
  /-- The settings or their schema were asked for. -/
  | shown (text : String)
  | ran (report : Report) (output : OutputFormat)
  deriving DecidableEq, Repr

namespace Ending

/-- Zero for success, two for arguments that are refused, and one for everything else. -/
def exitCode : Ending → UInt8
  | usage error => error.exitCode
  | failed _ => 1
  | shown _ => 0
  | ran report _ => if report.passed then 0 else 1

def result (colours : Bool) : Ending → String
  | usage error => error.result
  | failed _ => ""
  | shown text => text
  | ran report .pretty => report.pretty colours
  | ran report .json => report.toJson.pretty ++ "\n"

end Ending

/-- The dimensions of a command's run: those of the settings with what is given by hand. -/
def Command.stress (stress : Stress) : Command → Stress
  | spsc overrides => { overrides.apply stress with producers := 1, consumers := 1 }
  | mpmc overrides producers consumers =>
    let stress := overrides.apply stress
    { stress with
      producers := producers.getD stress.producers
      consumers := consumers.getD stress.consumers }
  | config _ => stress

def Settings.execute (settings : Settings) (scenario : Scenario) : Except Failure Report :=
  match settings.invalid? with
  | some rule => .error (.invalid rule)
  | none =>
    match scenario.run settings.stress with
    | .reported report => .ok report
    | .refused refusal => .error (.refused refusal)
    | .broken fault => .error (.broken fault)

/-- The settings with more in the log. -/
def Settings.verbose (settings : Settings) : Settings :=
  { settings with logging := { settings.logging with level := "debug" } }

/-- The settings and the filter of the log, with which the program sets to work. -/
def World.start (world : World) (line : CommandLine) : Except Failure (Settings × Log.Filter) := do
  let loaded ← (world.load line.configDir).mapError .load
  let settings := if line.verbose then loaded.verbose else loaded
  let filter ← (Log.Filter.ofLogging world.environment settings.logging).mapError .setup
  return (settings, filter)

/-- Runs the scenario of a command with the settings and what is given by hand. -/
def Command.run (command : Command) (scenario : Scenario) (output : OutputFormat)
    (settings : Settings) : Ending :=
  match { settings with stress := command.stress settings.stress }.execute scenario with
  | .ok report => .ran report output
  | .error failure => .failed failure

def Command.perform (command : Command) (output : OutputFormat) (world : World)
    (settings : Settings) : Ending :=
  match command with
  | spsc _ => command.run .spsc output settings
  | mpmc .. => command.run .mpmc output settings
  | config false => .shown settings.toToml
  | config true => .shown ((Settings.schema (.default world.environment)).pretty ++ "\n")

/-! The records of a run in the order in which they are logged. -/
namespace Log.Record

def configurationLoaded : Record :=
  ⟨.info, "circq", ["message", "config_dir", "env"], "configuration loaded"⟩

def startingRun : Record :=
  ⟨.info, "circq::scenario",
    ["message", "scenario", "capacity", "producers", "consumers", "items_per_producer"],
    "starting run"⟩

def runFinished : Record :=
  ⟨.info, "circq::scenario", ["message", "passed", "received", "elapsed_ms"], "run finished"⟩

def runFailed : Record :=
  ⟨.error, "circq", ["message", "scenario"], "run failed its checks"⟩

/-- The records of work that ended in a certain way. -/
def ofEnding : Ending → List Record
  | .ran report _ =>
    [configurationLoaded, startingRun, runFinished] ++ if report.passed then [] else [runFailed]
  | .failed (.refused (.unsupportedCapacity _)) => [configurationLoaded, startingRun]
  | .failed (.broken _) => [configurationLoaded, startingRun]
  | _ => [configurationLoaded]

end Log.Record

/-- How the program ended, and its log. -/
structure Outcome where
  ending : Ending
  /-- Whether records are written as JSON lines. -/
  jsonLog : Bool := false
  log : List Log.Record := []
  deriving DecidableEq, Repr

def World.run (world : World) (words : List String) : Outcome :=
  match CommandLine.parse world.environment words with
  | .error error => { ending := .usage error }
  | .ok line =>
    match world.start line with
    | .error failure => { ending := .failed failure }
    | .ok (settings, filter) =>
      let ending := line.command.perform line.output world settings
      { ending
        jsonLog := settings.logging.json
        log := (Log.Record.ofEnding ending).filter filter.logs }

/-- Whether results are coloured: always, never, or when they go to a terminal. -/
def Environment.colours (environment : Environment) (terminal : Bool) : Bool :=
  let isOn (name : String) : Option Bool := (environment.lookup name).map (· ≠ "0")
  if isOn "CLICOLOR_FORCE" = some true then true
  else if (isOn "NO_COLOR").isSome then false
  else (isOn "CLICOLOR").getD true && terminal

end RingQueue
