import RingQueue.Yaml.Node

/-! Reading YAML documents as values. -/
namespace RingQueue.Yaml

open RingQueue.Number

def Scalar.name : Scalar → String
  | bool value => if value then "true" else "false"
  | whole value => signedDecimal value
  | real value => value
  | text value => value

def Scalar.datum? : Scalar → Option Datum
  | bool value => some (.bool value)
  | whole value => some (.whole value)
  | real value => (Binary64.parse? value.toList).map .float
  | text value => some (.text value)

mutual

/-- The value of a node. There are no values for the words for infinity and for no number. -/
def Node.datum? : Node → Option Datum
  | .misfit | .nil => some .nil
  | .scalar value => value.datum?
  | .list items => (itemData? items).map .list
  | .table entries => (entryData? entries).map fun members => .table (lastOnly members)

def itemData? : List Node → Option (List Datum)
  | [] => some []
  | item :: items => do return (← item.datum?) :: (← itemData? items)

def entryData? : List (Scalar × Node) → Option (List (String × Datum))
  | [] => some []
  | (key, node) :: entries => do return (key.name, ← node.datum?) :: (← entryData? entries)

end

/-- The value of a text that has at most one document. Without one it is an empty table. -/
def parse? (text : String) : Option Datum := do
  match ← ofTokens? (← tokens? text) with
  | [] => some (.table [])
  | [root] => root.datum?
  | _ => none

end RingQueue.Yaml
