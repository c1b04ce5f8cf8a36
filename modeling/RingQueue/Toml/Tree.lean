import RingQueue.Datum

/-! The tree that the lines of a document build. A table can be made in three ways, and which one
decides whether it may still be extended: by a header of its own, as a step on the way to another
header, or by a dotted key. A value, inline tables and arrays included, is closed. -/
namespace RingQueue.Toml

inductive Origin where
  /-- On the way to the table of a header. Its own header may still come. -/
  | passed
  /-- By a dotted key. Only dotted keys of the same section add to it directly. -/
  | dotted
  /-- By its own header. -/
  | header
  deriving DecidableEq, Repr

inductive Node where
  | leaf (value : Datum)
  | table (origin : Origin) (members : List (String × Node))
  /-- Tables with one header each, the latest last. -/
  | tables (items : List (List (String × Node)))
  deriving Inhabited

abbrev Members := List (String × Node)

/-- Puts what `change` makes of a member into its place, or at the end if it is new. -/
def Members.update (members : Members) (key : String) (change : Option Node → Option Node) :
    Option Members :=
  match members with
  | [] => (change none).map fun node => [(key, node)]
  | (name, node) :: rest =>
    if name = key then (change (some node)).map fun node => (name, node) :: rest
    else (Members.update rest key change).map ((name, node) :: ·)

/-- Changes the table at the end of a path, making the tables on the way. A path that is part of a
dotted key does not enter tables that have a header. -/
def descend (dotted : Bool) (path : List String) (change : Origin → Members → Option Members)
    (origin : Origin) (members : Members) : Option Members :=
  match path with
  | [] => change origin members
  | key :: path =>
    members.update key fun node =>
      match node with
      | none =>
        let origin := if dotted then .dotted else .passed
        (descend dotted path change origin []).map (.table origin)
      | some (.leaf _) => none
      | some (.table origin members) =>
        if dotted ∧ origin = .header then none
        else (descend dotted path change origin members).map (.table origin)
      | some (.tables items) =>
        match items.getLast? with
        | none => none
        | some members =>
          (descend dotted path change .header members).map fun members =>
            .tables (items.dropLast ++ [members])

/-- Adds a value. The table that takes it was made by this very kind of key: by a dotted one if
the key is dotted, and otherwise not. No key is given twice. -/
def insert (path : List String) (key : String) (value : Datum) (origin : Origin)
    (members : Members) : Option Members :=
  descend true path
    (fun origin members =>
      if (origin == .dotted) == path.isEmpty then none
      else members.update key fun node =>
        match node with
        | none => some (.leaf value)
        | some _ => none)
    origin members

/-- A line that gives a value: the tables on the way, the key and the value. -/
structure Pair where
  path : List String
  key : String
  value : Datum

def insertAll (origin : Origin) (pairs : List Pair) (members : Members) : Option Members :=
  pairs.foldlM (fun members pair => insert pair.path pair.key pair.value origin members) members

/-- A header and the values under it. -/
structure Section where
  path : List String
  key : String
  /-- Whether the header starts another table of a list. -/
  element : Bool
  pairs : List Pair

def Section.build (part : Section) (root : Members) : Option Members :=
  descend false part.path
    (fun _ members => members.update part.key fun node =>
      if part.element then
        match node with
        | none => (insertAll .header part.pairs []).map fun item => .tables [item]
        | some (.tables items) =>
          (insertAll .header part.pairs []).map fun item => .tables (items ++ [item])
        | some _ => none
      else
        match node with
        | none => (insertAll .header part.pairs []).map (.table .header)
        | some (.table .passed members) =>
          (insertAll .header part.pairs members).map (.table .header)
        | some _ => none)
    .header root

mutual

def Node.toDatum : Node → Datum
  | .leaf value => value
  | .table _ members => .table (membersToData members)
  | .tables items => .list (itemsToData items)

def membersToData : List (String × Node) → List (String × Datum)
  | [] => []
  | (key, node) :: members => (key, node.toDatum) :: membersToData members

def itemsToData : List (List (String × Node)) → List Datum
  | [] => []
  | members :: items => .table (membersToData members) :: itemsToData items

end

/-- The table that a document denotes: the values before the first header, then the sections. -/
def build (pairs : List Pair) (sections : List Section) : Option Datum := do
  let root ← insertAll .header pairs []
  let root ← sections.foldlM (fun root part => part.build root) root
  return .table (membersToData root)

def inlineTable (pairs : List Pair) : Option Datum :=
  (insertAll .header pairs []).map fun members => .table (membersToData members)

end RingQueue.Toml
