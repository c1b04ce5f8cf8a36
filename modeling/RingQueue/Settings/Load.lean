import RingQueue.Layer.Coerce
import RingQueue.Layer.File
import RingQueue.Layer.Merge
import RingQueue.Layer.Variables
import RingQueue.Settings.Toml
import RingQueue.Settings.Validate
import RingQueue.Text.Escaped

/-! Loading settings from a directory and saving them to a file. The sources are laid over each
other in order: the defaults' file, the file of the environment's name, the local file, and last
the environment variables. -/
namespace RingQueue

open RingQueue.Files

/-- How loading from the sources can fail. -/
inductive SourceError where
  /-- A file cannot be read as a table. -/
  | building
  /-- A field has a value that does not fit. -/
  | deserializing
  deriving DecidableEq, Repr

def SourceError.message : SourceError → String
  | building => "building configuration"
  | deserializing => "deserializing configuration"

inductive LoadError where
  | sources (directory : String) (cause : SourceError)
  | invalid (rule : Invalid)
  deriving DecidableEq, Repr

namespace LoadError

/-- The message without its cause. -/
def message : LoadError → String
  | sources directory _ => "loading configuration from " ++ Text.escaped directory
  | invalid rule => rule.message

/-- The message and, after a colon, its cause. -/
def fullMessage : LoadError → String
  | sources directory cause => message (sources directory cause) ++ ": " ++ cause.message
  | invalid rule => rule.message

end LoadError

/-- The world around the program. -/
structure World where
  files : Tree
  environment : Environment

namespace World

/-- The directory of settings when none is given: the one in the home directory, or the one in the
current directory, if it is there; otherwise the current directory. -/
def defaultDirectory (world : World) : String :=
  let ofProject :=
    let directory := join world.files.currentPath "config"
    if world.files.exists? directory then directory else world.files.currentPath
  match world.environment.lookup "HOME" with
  | some home =>
    let directory := join home ".circq"
    if home ≠ "" ∧ world.files.exists? directory then directory else ofProject
  | none => ofProject

/-- The names of the files in a directory, weakest first. -/
def sourceNames (env : String) : List String := ["default.toml", env ++ ".toml", "local.toml"]

def layers? (world : World) (directory env : String) : Option Datum := do
  let files ← (sourceNames env).mapM fun name => Layer.ofFile? world.files (join directory name)
  let sources := files ++ [Layer.ofVariables world.environment]
  return sources.foldl Layer.apply (.table [])

/-- The settings of the sources for the environment `env`, whose name they take. -/
def loadFromSources (world : World) (directory env : String) : Except SourceError Settings :=
  match world.layers? directory env with
  | none => .error .building
  | some root =>
    match Settings.decode? Layer.reading world.environment.defaultEnv root with
    | none => .error .deserializing
    | some settings => .ok { settings with env }

/-- The settings of a directory, or of the default one, provided they are valid. -/
def load (world : World) (directory : Option String) : Except LoadError Settings :=
  let directory := directory.getD world.defaultDirectory
  match world.loadFromSources directory world.environment.defaultEnv with
  | .error cause => .error (.sources directory cause)
  | .ok settings =>
    match settings.invalid? with
    | some rule => .error (.invalid rule)
    | none => .ok settings

/-- Writes the settings' document to a file. -/
def save? (world : World) (settings : Settings) (path : String) : Option World :=
  (world.files.write? path settings.toToml.toUTF8).map fun files => { world with files }

def saveFailure (path : String) : String :=
  "writing configuration to " ++ Text.escaped path

end World
end RingQueue
