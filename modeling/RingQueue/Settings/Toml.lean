import RingQueue.Settings.Decode
import RingQueue.Toml.Reader
import RingQueue.Toml.Writer

/-! Settings as a document, in both directions. -/
namespace RingQueue

open RingQueue.Number

/-- The only thing that can go wrong between settings and documents. -/
inductive DocumentError where
  | unreadable
  deriving DecidableEq, Repr

def DocumentError.message : DocumentError → String
  | unreadable => "parsing TOML configuration"

def wordText (value : UInt64) : String := decimal value.toNat

def flagText (value : Bool) : String := if value then "true" else "false"

def assignment (name value : String) : String := name ++ " = " ++ value ++ "\n"

namespace Settings

/-- The document of the settings, every field in order. -/
def toToml (settings : Settings) : String :=
  let stress := settings.stress
  assignment "env" (Toml.quoted settings.env) ++
  "\n[logging]\n" ++
  assignment "level" (Toml.quoted settings.logging.level) ++
  assignment "json" (flagText settings.logging.json) ++
  "\n[stress]\n" ++
  assignment "producers" (wordText stress.producers) ++
  assignment "consumers" (wordText stress.consumers) ++
  assignment "items_per_producer" (wordText stress.itemsPerProducer) ++
  assignment "capacity" (wordText stress.capacity) ++
  assignment "pin_threads" (flagText stress.pinThreads) ++
  assignment "timeout_ms" (wordText stress.timeoutMs)

def ofToml (defaultEnv document : String) : Except DocumentError Settings :=
  match (Toml.parse? document).bind (Settings.decode? (.exact true) defaultEnv) with
  | some settings => .ok settings
  | none => .error .unreadable

end Settings
end RingQueue
