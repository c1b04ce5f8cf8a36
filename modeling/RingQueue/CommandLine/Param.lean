import RingQueue.CommandLine.Basic
import RingQueue.Number.Digits

/-! The options of the program, the commands that have them, and how their values are read. -/
namespace RingQueue.CommandLine

open RingQueue.Number

/-- Why arguments are not carried out. -/
inductive UsageError where
  | helpRequested
  | versionRequested
  | nothingGiven
  | noCommand
  | unknownCommand
  | unknownArgument
  | repeated
  | missingValue
  | unneededValue
  | emptyPath
  | unknownFormat
  | badNumber
  deriving DecidableEq, Repr

/-- Asking for help or for the version is no failure. -/
def UsageError.exitCode : UsageError → UInt8
  | helpRequested | versionRequested => 0
  | _ => 2

inductive Param where
  | output
  | configDir
  | verbose
  | items
  | capacity
  | pin
  | timeoutMs
  | producers
  | consumers
  | schema
  | help
  | version
  deriving DecidableEq, Repr

/-- An option with its value. -/
inductive Choice where
  | output (format : OutputFormat)
  | configDir (path : String)
  | verbose
  | items (count : UInt64)
  | capacity (count : UInt64)
  | pin
  | timeoutMs (time : UInt64)
  | producers (count : UInt64)
  | consumers (count : UInt64)
  | schema
  deriving DecidableEq, Repr

def Choice.param : Choice → Param
  | output _ => .output
  | configDir _ => .configDir
  | verbose => .verbose
  | items _ => .items
  | capacity _ => .capacity
  | pin => .pin
  | timeoutMs _ => .timeoutMs
  | producers _ => .producers
  | consumers _ => .consumers
  | schema => .schema

namespace Param

def long : Param → String
  | output => "output"
  | configDir => "config-dir"
  | verbose => "verbose"
  | items => "items"
  | capacity => "capacity"
  | pin => "pin"
  | timeoutMs => "timeout-ms"
  | producers => "producers"
  | consumers => "consumers"
  | schema => "schema"
  | help => "help"
  | version => "version"

def short? : Param → Option Char
  | output => some 'o'
  | verbose => some 'v'
  | items => some 'i'
  | producers => some 'p'
  | consumers => some 'c'
  | help => some 'h'
  | version => some 'V'
  | _ => none

def takesValue : Param → Bool
  | output | configDir | items | capacity | timeoutMs | producers | consumers => true
  | _ => false

def readFormat (text : String) : Except UsageError OutputFormat :=
  if text = "pretty" then .ok .pretty
  else if text = "json" then .ok .json
  else .error .unknownFormat

def readPath (text : String) : Except UsageError String :=
  if text = "" then .error .emptyPath else .ok text

def readNumber (text : String) : Except UsageError UInt64 :=
  match unsigned? text.toList with
  | some n => .ok (.ofNat n)
  | none => .error .badNumber

/-- An option with the value of a text. -/
def read (text : String) : Param → Except UsageError Choice
  | output => (readFormat text).map .output
  | configDir => (readPath text).map .configDir
  | items => (readNumber text).map .items
  | capacity => (readNumber text).map .capacity
  | timeoutMs => (readNumber text).map .timeoutMs
  | producers => (readNumber text).map .producers
  | consumers => (readNumber text).map .consumers
  | _ => .error .unneededValue

/-- An option without a value. -/
def stand : Param → Except UsageError Choice
  | verbose => .ok .verbose
  | pin => .ok .pin
  | schema => .ok .schema
  | help => .error .helpRequested
  | version => .error .versionRequested
  | _ => .error .missingValue

end Param

/-- The words that name commands. -/
inductive Verb where
  | spsc
  | mpmc
  | config
  deriving DecidableEq, Repr

/-- Where an argument stands: before a command, or after one. -/
inductive Scope where
  | top
  | after (verb : Verb)
  deriving DecidableEq, Repr

def globalParams : List Param := [.output, .configDir, .verbose]

def runParams : List Param := [.items, .capacity, .pin, .timeoutMs]

/-- What a word in the place of a command asks for. -/
inductive Entry where
  | run (verb : Verb)
  | help
  deriving DecidableEq, Repr

namespace Scope

def params : Scope → List Param
  | top => globalParams ++ [.help, .version]
  | after .spsc => globalParams ++ runParams ++ [.help]
  | after .mpmc => globalParams ++ runParams ++ [.producers, .consumers, .help]
  | after .config => globalParams ++ [.schema, .help]

def long? (scope : Scope) (name : List Char) : Option Param :=
  scope.params.find? fun param => param.long.toList = name

def short? (scope : Scope) (letter : Char) : Option Param :=
  scope.params.find? fun param => param.short? = some letter

/-- Commands are named once. -/
def entry? (scope : Scope) (word : String) : Option Entry :=
  match scope with
  | after _ => none
  | top =>
    if word = "spsc" then some (.run .spsc)
    else if word = "mpmc" then some (.run .mpmc)
    else if word = "config" then some (.run .config)
    else if word = "help" then some .help
    else none

/-- The error for a word that is neither an option nor a value. -/
def stray : Scope → UsageError
  | top => .unknownCommand
  | after _ => .unknownArgument

/-- The error for a word after two dashes, where not even a command may stand. -/
def strayAfterDashes (scope : Scope) (word : String) : UsageError :=
  if (scope.entry? word).isSome then .unknownArgument else scope.stray

end Scope
end RingQueue.CommandLine
