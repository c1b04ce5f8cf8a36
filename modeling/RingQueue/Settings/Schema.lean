import RingQueue.Json.Value
import RingQueue.Settings.Basic

/-! The JSON schema of settings. Members stand in the order of their names. -/
namespace RingQueue.Settings

open RingQueue.Json

/-- A property with its description, if it has one, and its default. -/
def propertySchema (description : Option String) (default : Value)
    (kind : List (String × Value)) : Value :=
  let described := match description with
    | some text => [("description", Value.string text)]
    | none => []
  .object (("default", default) :: described ++ kind)

def textSchema (description : Option String) (default : String) : Value :=
  propertySchema description (.string default) [("type", .string "string")]

def flagSchema (description : String) (default : Bool) : Value :=
  propertySchema (some description) (.bool default) [("type", .string "boolean")]

def wordSchema (format : String) (description : Option String) (default : UInt64) : Value :=
  propertySchema description (.whole default.toNat)
    [("format", .string format), ("minimum", .whole 0), ("type", .string "integer")]

def sharedSchema (name : String) (default : Value) : Value :=
  .object [("$ref", .string ("#/$defs/" ++ name)), ("default", default)]

def recordSchema (properties : List (String × Value)) : Value :=
  .object [("properties", .object properties), ("type", .string "object")]

def loggingValue (logging : Logging) : Value :=
  .object [("json", .bool logging.json), ("level", .string logging.level)]

def stressValue (stress : Stress) : Value :=
  .object [
    ("capacity", .whole stress.capacity.toNat),
    ("consumers", .whole stress.consumers.toNat),
    ("items_per_producer", .whole stress.itemsPerProducer.toNat),
    ("pin_threads", .bool stress.pinThreads),
    ("producers", .whole stress.producers.toNat),
    ("timeout_ms", .whole stress.timeoutMs.toNat)]

def loggingSchema (default : Logging) : Value :=
  recordSchema [
    ("json", flagSchema "Emit JSON lines instead of human-readable output" default.json),
    ("level", textSchema
      (some ("`EnvFilter` directive, e.g. \"info\" or \"circq=debug\". " ++
        "`RUST_LOG` wins when set.")) default.level)]

def stressSchema (default : Stress) : Value :=
  recordSchema [
    ("capacity",
      wordSchema "uint" (some "Must be one of [`SUPPORTED_CAPACITIES`]") default.capacity),
    ("consumers", wordSchema "uint" none default.consumers),
    ("items_per_producer", wordSchema "uint64" none default.itemsPerProducer),
    ("pin_threads",
      flagSchema "Pin each worker thread to a core, round-robin" default.pinThreads),
    ("producers", wordSchema "uint" none default.producers),
    ("timeout_ms",
      wordSchema "uint64" (some "Wall-clock limit for one run") default.timeoutMs)]

/-- The schema of settings with the given defaults. -/
def schema (default : Settings) : Value :=
  .object [
    ("$defs", .object [
      ("LoggingConfig", loggingSchema default.logging),
      ("StressConfig", stressSchema default.stress)]),
    ("$schema", .string "https://json-schema.org/draft/2020-12/schema"),
    ("properties", .object [
      ("env", textSchema none default.env),
      ("logging", sharedSchema "LoggingConfig" (loggingValue default.logging)),
      ("stress", sharedSchema "StressConfig" (stressValue default.stress))]),
    ("title", .string "Settings"),
    ("type", .string "object")]

end RingQueue.Settings
