import RingQueue.Log.Directive
import RingQueue.Settings.Environment
import RingQueue.SetupError
import RingQueue.Text.Escaped
import RingQueue.Text.Pieces

/-! Filters decide which records are logged. The most special directive that fits a record decides
alone. -/
namespace RingQueue.Log

/-- Directives, the most special first, and the highest level that any has asked for, replaced
ones included. -/
structure Table where
  directives : List Directive := []
  highest : Level := .off
  deriving DecidableEq, Repr

namespace Table

/-- Puts a directive in its place. It replaces one that differs in the level only. -/
def insertInto (directive : Directive) : List Directive → List Directive
  | [] => [directive]
  | other :: rest =>
    match directive.order other with
    | .gt => directive :: other :: rest
    | .eq => directive :: rest
    | .lt => other :: insertInto directive rest

def insert (table : Table) (directive : Directive) : Table where
  directives := insertInto directive table.directives
  highest := table.highest.max directive.level

def ofList (directives : List Directive) : Table := directives.foldl insert {}

end Table

structure Filter where
  /-- Directives that can be judged on a record alone. -/
  statics : Table
  /-- Directives about spans and fields. -/
  dynamics : Table
  deriving DecidableEq, Repr

/-- A record, as far as filters ask: its level, its target and the names of its fields. -/
structure Record where
  level : Level
  target : String
  fields : List String
  message : String
  deriving DecidableEq, Repr

namespace Filter

def ofDirectives (directives : List Directive) : Filter :=
  let dynamics := directives.filter Directive.isDynamic
  let plain := directives.filter fun directive => !directive.isDynamic
  { statics := .ofList (plain ++ dynamics.filter Directive.isStatic)
    dynamics := .ofList dynamics }

/-- Reads directives between commas. The first that cannot be read is the error. -/
def parse (text : String) : Except DirectiveError Filter := do
  let pieces := (Text.pieces ',' text.toList).filter (· ≠ [])
  return .ofDirectives (← pieces.mapM fun piece => Directive.parse (.ofList piece))

def text (filter : Filter) : String :=
  ",".intercalate
    ((filter.statics.directives ++ filter.dynamics.directives).map Directive.text)

/-- A level above which nothing is logged. With a value to compare, nothing can be ruled out. -/
def highest (filter : Filter) : Level :=
  if filter.dynamics.directives.any fun d => (d.field.bind FieldMatch.value).isSome then .trace
  else filter.statics.highest.max filter.dynamics.highest

/-- Whether a static directive is about a record. -/
def concerns (record : Record) (directive : Directive) : Bool :=
  ((directive.target.map fun target => target.toList.isPrefixOf record.target.toList).getD true) &&
    ((directive.field.map fun field => record.fields.contains field.name).getD true)

/-- Whether a record outside of all spans is logged. -/
def logs (filter : Filter) (record : Record) : Bool :=
  match filter.statics.directives.find? (concerns record) with
  | some directive => record.level.rank ≤ directive.level.rank
  | none => false

/-- The variable whose directives win over the settings. -/
def variableName : String := "RUST_LOG"

/-- The filter of the environment if it has one that can be read, or else that of the settings. -/
def ofLogging (environment : Environment) (logging : Logging) : Except SetupError Filter :=
  match (environment.lookup variableName).map parse with
  | some (.ok filter) => .ok filter
  | _ =>
    match parse (String.ofList (Text.trim logging.level.toList)) with
    | .ok filter => .ok filter
    | .error error =>
      .error (.invalidSetting
        ("logging.level " ++ Text.escaped logging.level ++ ": " ++ error.message))

end Filter
end RingQueue.Log
