import RingQueue.Datum
import RingQueue.Number.Reading
import RingQueue.Settings.Environment

/-! Environment variables as a source. A variable belongs to the source if its name, in lower
case, has the mark of the program in front; two underscores in the rest separate names. -/
namespace RingQueue.Layer

open RingQueue.Number

/-- What the names of the program's variables start with. -/
def variableMark : List Char := "circq__".toList

/-- Puts a point for every two underscores. -/
def separate : List Char → List Char
  | '_' :: '_' :: rest => '.' :: separate rest
  | c :: rest => c :: separate rest
  | [] => []

/-- The key that a variable sets, if it belongs to the source. -/
def keyOf? (name : String) : Option String :=
  let name := name.toList.map Char.toLower
  if variableMark.isPrefixOf name then some (.ofList (separate (name.drop variableMark.length)))
  else none

/-- The value of a variable: a truth value, a whole number, a number, or else text. -/
def valueOf (text : String) : Datum :=
  let word := text.toList.map Char.toLower
  if word = "true".toList then .bool true
  else if word = "false".toList then .bool false
  else
    match signed? text.toList with
    | some n => .whole n
    | none =>
      match Binary64.parse? text.toList with
      | some value => .float value
      | none => .text text

def ofVariables (environment : Environment) : List (String × Datum) :=
  environment.filterMap fun (name, text) => (keyOf? name).map fun key => (key, valueOf text)

end RingQueue.Layer
