import RingQueue.CommandLine.Param

/-! What the program says about itself and about arguments that it does not take. -/
namespace RingQueue.CommandLine

def versionText : String := "circq 0.1.0\n"

def Param.about : Param → String
  | output => "Output format (pretty, json)"
  | configDir => "Directory holding default.toml / \x7benv\x7d.toml / local.toml"
  | verbose => "Verbose output"
  | items => "Items sent by each producer"
  | capacity => "Queue capacity (2, 4, 64, 1024 or 65536)"
  | pin => "Pin worker threads to cores"
  | timeoutMs => "Deadline for the whole run in milliseconds"
  | producers => "Producer threads"
  | consumers => "Consumer threads"
  | schema => "Print the JSON schema instead"
  | help => "Print help"
  | version => "Print version"

def Param.usage (param : Param) : String :=
  let short := match param.short? with
    | some letter => .ofList ['-', letter, ',', ' ']
    | none => "    "
  let value := if param.takesValue then " <VALUE>" else ""
  "  " ++ short ++ "--" ++ param.long ++ value ++ "  " ++ param.about ++ "\n"

def usageOf (title : String) (params : List Param) : String :=
  "\n" ++ title ++ ":\n" ++ .join (params.map Param.usage)

def helpText : String :=
  "circq - stress driver for the lock-free circular queues\n\n" ++
  "Usage: circq [OPTIONS] <COMMAND>\n\n" ++
  "Commands:\n" ++
  "  spsc    One producer, one consumer; checks strict FIFO\n" ++
  "  mpmc    Many producers and consumers; checks exactly-once delivery\n" ++
  "  config  Print the effective configuration\n" ++
  "  help    Print this message\n" ++
  usageOf "Options" Scope.top.params ++
  usageOf "Options of spsc and mpmc" runParams ++
  usageOf "Options of mpmc" [.producers, .consumers] ++
  usageOf "Options of config" [.schema]

namespace UsageError

def message : UsageError → String
  | helpRequested => ""
  | versionRequested => ""
  | nothingGiven => helpText
  | noCommand => "error: a command is required\n"
  | unknownCommand => "error: unrecognized command\n"
  | unknownArgument => "error: unexpected argument\n"
  | repeated => "error: an argument cannot be used multiple times\n"
  | missingValue => "error: a value is required for an argument but none was supplied\n"
  | unneededValue => "error: unexpected value for an argument that takes none\n"
  | emptyPath => "error: a directory cannot be empty\n"
  | unknownFormat => "error: the output format is pretty or json\n"
  | badNumber => "error: invalid number\n"

/-- What is printed as a result: help and the version, if they were asked for. -/
def result : UsageError → String
  | helpRequested => helpText
  | versionRequested => versionText
  | _ => ""

end UsageError
end RingQueue.CommandLine
