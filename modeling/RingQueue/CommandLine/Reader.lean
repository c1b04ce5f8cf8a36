import RingQueue.CommandLine.Param
import RingQueue.Settings.Environment

/-! Reading arguments. Those before the command and those after it are read apart, each option at
most once in each part. A value that stands in an argument of its own is looked at only when the
next option comes, or at the end; so an argument that is unknown is reported first. -/
namespace RingQueue.CommandLine

/-- The options read so far, and an option whose value is not looked at yet or has not come. -/
structure Reading where
  chosen : List Choice := []
  pending : Option (Param × Option String) := none
  deriving DecidableEq, Repr

namespace Reading

def has (reading : Reading) (param : Param) : Bool :=
  reading.chosen.any fun choice => choice.param = param

/-- Adds an option, unless it was there before. -/
def add (reading : Reading) (param : Param) (choice : Except UsageError Choice) :
    Except UsageError Reading :=
  if reading.has param then .error .repeated
  else choice.map fun choice => { reading with chosen := reading.chosen ++ [choice] }

/-- Looks at the value that was put off. -/
def settle (reading : Reading) : Except UsageError Reading :=
  match reading.pending with
  | none => .ok reading
  | some (_, none) => .error .missingValue
  | some (param, some text) => add { reading with pending := none } param (param.read text)

/-- Takes an option with its value in the same argument. -/
def give (reading : Reading) (param : Param) (text : String) : Except UsageError Reading := do
  (← reading.settle).add param (param.read text)

/-- Takes an option without a value. -/
def stand (reading : Reading) (param : Param) : Except UsageError Reading := do
  let reading ← reading.settle
  reading.add param param.stand

/-- Takes an option whose value is to come. -/
def await (reading : Reading) (param : Param) : Except UsageError Reading := do
  return { ← reading.settle with pending := some (param, none) }

/-- Whether the next plain argument is a value. -/
def awaits (reading : Reading) : Bool :=
  match reading.pending with
  | some (_, none) => true
  | _ => false

/-- Reads what follows two dashes. -/
def long (scope : Scope) (reading : Reading) (text : List Char) : Except UsageError Reading :=
  match scope.long? (text.takeWhile (· ≠ '=')), text.dropWhile (· ≠ '=') with
  | none, _ => .error .unknownArgument
  | some param, [] => if param.takesValue then reading.await param else reading.stand param
  | some param, _ :: value =>
    if param.takesValue then reading.give param (.ofList value) else .error .unneededValue

/-- Reads the letters that follow one dash. The first that takes a value has the rest for it. -/
def cluster (scope : Scope) (reading : Reading) : List Char → Except UsageError Reading
  | [] => .ok reading
  | letter :: rest =>
    match scope.short? letter with
    | none => .error .unknownArgument
    | some param =>
      if param.takesValue then
        match rest with
        | [] => reading.await param
        | '=' :: value => reading.give param (.ofList value)
        | value => reading.give param (.ofList value)
      else
        match reading.stand param with
        | .ok reading => cluster scope reading rest
        | .error error => .error error

def step (scope : Scope) (reading : Reading) (word : String) : Except UsageError Reading :=
  match word.toList with
  | '-' :: '-' :: text => long scope reading text
  | '-' :: letter :: rest => cluster scope reading (letter :: rest)
  | _ =>
    match reading.pending with
    | some (param, none) => .ok { reading with pending := some (param, some word) }
    | _ => .error scope.stray

end Reading

/-- The error that a request for help ends in. It may name one command. -/
def helpOn : List String → UsageError
  | [] => .helpRequested
  | [word] => if (Scope.top.entry? word).isSome then .helpRequested else .unknownCommand
  | _ => .unknownCommand

/-- Reads arguments up to a command. Answers the command with the arguments after it, if there is
one. -/
def readWords (scope : Scope) (reading : Reading) :
    List String → Except UsageError (Reading × Option (Verb × List String))
  | [] => .ok (reading, none)
  | word :: rest =>
    match if reading.awaits then none else scope.entry? word with
    | some .help => .error (helpOn rest)
    | some (.run verb) => .ok (reading, some (verb, rest))
    | none =>
      if word = "--" then
        match rest with
        | [] => .ok (reading, none)
        | word :: _ => .error (scope.strayAfterDashes word)
      else
        match reading.step scope word with
        | .ok reading => readWords scope reading rest
        | .error error => .error error

/-- The variable that names a directory when no argument does. -/
def directoryVariable : String := "CIRCQ_CONFIG_DIR"

/-- The options of one part. The directory of the environment has to be a path if the part itself
names none. -/
def finish (environment : Environment) (reading : Reading) : Except UsageError (List Choice) := do
  let reading ← reading.settle
  if reading.has .configDir ∨ environment.lookup directoryVariable ≠ some "" then
    return reading.chosen
  throw .emptyPath

def format? : Choice → Option OutputFormat
  | .output format => some format
  | _ => none

def path? : Choice → Option String
  | .configDir path => some path
  | _ => none

def items? : Choice → Option UInt64
  | .items count => some count
  | _ => none

def capacity? : Choice → Option UInt64
  | .capacity count => some count
  | _ => none

def timeoutMs? : Choice → Option UInt64
  | .timeoutMs time => some time
  | _ => none

def producers? : Choice → Option UInt64
  | .producers count => some count
  | _ => none

def consumers? : Choice → Option UInt64
  | .consumers count => some count
  | _ => none

def overridesOf (chosen : List Choice) : Overrides where
  items := chosen.findSome? items?
  capacity := chosen.findSome? capacity?
  pin := chosen.contains .pin
  timeoutMs := chosen.findSome? timeoutMs?

def commandOf (verb : Verb) (chosen : List Choice) : Command :=
  match verb with
  | .spsc => .spsc (overridesOf chosen)
  | .mpmc =>
    .mpmc (overridesOf chosen) (chosen.findSome? producers?) (chosen.findSome? consumers?)
  | .config => .config (chosen.contains .schema)

/-- What the options before and after a command ask for. Those after it win. -/
def ofChoices (environment : Environment) (before : List Choice) (verb : Verb)
    (after : List Choice) : CommandLine where
  output := ((after ++ before).findSome? format?).getD .pretty
  configDir := ((after ++ before).findSome? path?).or (environment.lookup directoryVariable)
  verbose := (after ++ before).contains .verbose
  command := commandOf verb after

def parse (environment : Environment) (words : List String) : Except UsageError CommandLine := do
  match ← readWords .top {} words with
  | (reading, none) =>
    let before ← finish environment reading
    if before = [] ∧ environment.lookup directoryVariable = none then throw .nothingGiven
    throw .noCommand
  | (reading, some (verb, rest)) =>
    let (own, _) ← readWords (.after verb) {} rest
    let after ← finish environment own
    let before ← finish environment reading
    return ofChoices environment before verb after

end RingQueue.CommandLine
