import RingQueue.Files.Tree
import RingQueue.Ini.Reader
import RingQueue.Json.Reader
import RingQueue.Json5.Reader
import RingQueue.Ron.Reader
import RingQueue.Text.Lossy
import RingQueue.Toml.Reader
import RingQueue.Yaml.Reader

/-! Files as sources, in any of several notations. A file that is not there has no entries. -/
namespace RingQueue.Layer

open RingQueue.Files

/-- The notations of files. -/
inductive Form where
  | toml
  | json
  | yaml
  | ini
  | ron
  | json5
  deriving DecidableEq, Repr

/-- The endings of the names of files, with the notation that each stands for. -/
def endings : List (String × Form) :=
  [(".toml", .toml), (".json", .json), (".yaml", .yaml), (".yml", .yaml), (".ini", .ini),
    (".ron", .ron), (".json5", .json5)]

def byteMark : List UInt8 := [0xef, 0xbb, 0xbf]

/-- The content of a file as text, without a mark in front. -/
def contentText (content : ByteArray) : String :=
  if (content.extract 0 3).toList = byteMark then
    Text.ofBytes (content.extract 3 content.size)
  else Text.ofBytes content

/-- Finds the file of a path, which ends in `.toml`. A file of just that name is taken unless the
name is nothing but the ending; then one with a further ending. -/
def findSource? (tree : Tree) (path : String) : Option (Form × ByteArray) :=
  match tree.read? path with
  | some content => if (steps path).getLast? = some ".toml" then none else some (.toml, content)
  | none =>
    endings.findSome? fun (ending, form) =>
      (tree.read? (path ++ ending)).map fun content => (form, content)

mutual

/-- A value as layers hold it: whole numbers have 64 bits with a sign, and dates are text. -/
def settle? : Datum → Option Datum
  | .whole n => if -(2 ^ 63) ≤ n ∧ n < 2 ^ 63 then some (.whole n) else none
  | .moment text => some (.text text)
  | .list items => (settleItems? items).map .list
  | .table members => (settleMembers? members).map .table
  | value => some value

def settleItems? : List Datum → Option (List Datum)
  | [] => some []
  | item :: items => do return (← settle? item) :: (← settleItems? items)

def settleMembers? : List (String × Datum) → Option (List (String × Datum))
  | [] => some []
  | (name, value) :: members => do return (name, ← settle? value) :: (← settleMembers? members)

end

mutual

/-- A JSON value as layers hold it. Of members of one name the last counts. -/
def ofJson : Json.Value → Datum
  | .null => .nil
  | .bool value => .bool value
  | .whole n => .whole n
  | .float value => .float value
  | .string value => .text value
  | .array items => .list (ofItems items)
  | .object members => .table (lastOnly (ofMembers members))

def ofItems : List Json.Value → List Datum
  | [] => []
  | item :: items => ofJson item :: ofItems items

def ofMembers : List (String × Json.Value) → List (String × Datum)
  | [] => []
  | (name, value) :: members => (name, ofJson value) :: ofMembers members

end

def Form.parse? (form : Form) (text : String) : Option Datum :=
  match form with
  | toml => (Toml.parse? text).bind settle?
  | json => (Json.parse? text).map ofJson
  | yaml => Yaml.parse? text
  | ini => Ini.parse? text
  | ron => Ron.parse? text
  | json5 => Json5.parse? text

/-- The entries of the file of a path. Nothing if there is a file but it cannot be read. -/
def ofFile? (tree : Tree) (path : String) : Option (List (String × Datum)) :=
  match findSource? tree path with
  | none => some []
  | some (form, content) =>
    match form.parse? (contentText content) with
    | some (.table members) => some members
    | _ => none

end RingQueue.Layer
