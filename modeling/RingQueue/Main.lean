import RingQueue.Program

/-! The command. It looks at the world, runs the program on what it saw, and prints. -/
namespace RingQueue

open RingQueue.Files

/-- A variable of the environment from its text, a name and a value around a sign of equality. -/
def variableOf (text : List Char) : String × String :=
  (.ofList (text.takeWhile (· ≠ '=')), .ofList ((text.dropWhile (· ≠ '=')).drop 1))

/-- The variables of a block, each ended by a zero. -/
def environmentOf (block : String) : Environment :=
  ((Text.pieces '\x00' block.toList).filter (· ≠ [])).map variableOf

def directoriesOf (environment : Environment) (current : String) (line : CommandLine) :
    List String :=
  [current, join current "config"] ++
    ((environment.lookup "HOME").map fun home => join home ".circq").toList ++
    line.configDir.toList

/-- The files that a run can ask for in a directory. -/
def filesOf (env directory : String) : List String :=
  (World.sourceNames env).flatMap fun name =>
    let path := join directory name
    path :: Layer.endings.map fun (ending, _) => path ++ ending

def entryAt (path : String) : IO (Option Entry) := do
  try
    let place ← IO.FS.realPath path
    if ← place.isDir then return some .directory
    return some (.file (← IO.FS.readBinFile path))
  catch _ => return none

/-- The entries on the way to a path, the one at its end included. -/
def entriesTo (current path : String) : IO (List (List String × Entry)) := do
  let way := steps (join current path)
  let found ← (List.range way.length).mapM fun n => do
    let part := way.take (n + 1)
    let location := part.foldl
      (fun location step => if step = ".." then location.dropLast else location ++ [step]) []
    return (← entryAt ("/" ++ "/".intercalate part)).map fun entry => (location, entry)
  return found.filterMap id

/-- The world, as far as a command line can ask for it. -/
def worldFor (environment : Environment) (current : String) (words : List String) : IO World := do
  let paths := match CommandLine.parse environment words with
    | .error _ => []
    | .ok line =>
      let directories := directoriesOf environment current line
      directories ++ directories.flatMap (filesOf environment.defaultEnv)
  let entries ← paths.mapM (entriesTo current)
  return { files := { entries := entries.flatten, current := steps current }, environment }

def lineOf (json : Bool) (record : Log.Record) : String :=
  let level := String.ofList (record.level.word.toList.map Char.toUpper)
  if json then
    "\x7b\"level\":" ++ Json.quoted level ++ ",\"fields\":\x7b\"message\":" ++
      Json.quoted record.message ++ "\x7d,\"target\":" ++ Json.quoted record.target ++ "\x7d"
  else level ++ " " ++ record.target ++ ": " ++ record.message

/-- What is printed when there is no result. -/
def complaintOf : Ending → String
  | .usage error => error.message
  | .failed failure => "Error: " ++ failure.message ++ "\n"
  | _ => ""

end RingQueue

open RingQueue in
/-- Runs the program on the arguments and the world around it. -/
def main (words : List String) : IO UInt32 := do
  let environment := environmentOf (Text.ofBytes (← IO.FS.readBinFile "/proc/self/environ"))
  let current := (← IO.currentDir).toString
  let outcome := (← worldFor environment current words).run words
  let terminal ← (← IO.getStdout).isTty
  for record in outcome.log do IO.eprintln (lineOf outcome.jsonLog record)
  IO.print (outcome.ending.result (environment.colours terminal))
  IO.eprint (complaintOf outcome.ending)
  return outcome.ending.exitCode.toUInt32
