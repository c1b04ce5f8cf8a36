import Mathlib.Data.List.Nodup
import RingQueue.Toml.Tree

/-! Trees of lines whose keys have no points. As long as no key is given twice, every line adds one
member at the end of its table, and every header one table at the end of the root. -/
namespace RingQueue.Toml

/-- A line with a key of one part. -/
def Pair.plain (line : String × Datum) : Pair := ⟨[], line.1, line.2⟩

/-- A header of one part and the lines under it. -/
def Section.plain (table : String × List (String × Datum)) : Section :=
  ⟨[], table.1, false, table.2.map Pair.plain⟩

def Node.ofLine (line : String × Datum) : String × Node := (line.1, .leaf line.2)

def Node.ofTable (table : String × List (String × Datum)) : String × Node :=
  (table.1, .table .header (table.2.map Node.ofLine))

theorem Node.keys_ofLine (lines : List (String × Datum)) :
    (lines.map Node.ofLine).map Prod.fst = lines.map Prod.fst := by
  rw [List.map_map]
  rfl

variable {members root : Members} {key : String} {lines : List (String × Datum)}

theorem update_absent (absent : key ∉ members.map Prod.fst) (change : Option Node → Option Node) :
    members.update key change = (change none).map fun node => members ++ [(key, node)] := by
  induction members with
  | nil => rfl
  | cons member members ih =>
    obtain ⟨name, node⟩ := member
    rw [List.map_cons, List.mem_cons, not_or] at absent
    rw [Members.update, if_neg (Ne.symm absent.1), ih absent.2, Option.map_map]
    rfl

theorem insert_undotted (absent : key ∉ members.map Prod.fst) (value : Datum) :
    insert [] key value .header members = some (members ++ [(key, .leaf value)]) := by
  rw [insert, descend]
  exact update_absent absent _

theorem insertAll_plain (distinct : (members.map Prod.fst ++ lines.map Prod.fst).Nodup) :
    insertAll .header (lines.map Pair.plain) members = some (members ++ lines.map Node.ofLine) := by
  induction lines generalizing members with
  | nil => exact congrArg some (List.append_nil members).symm
  | cons line lines ih =>
    rw [List.map_cons] at distinct
    have absent : line.1 ∉ members.map Prod.fst := fun member =>
      (List.nodup_cons.mp (List.nodup_middle.mp distinct)).1 (List.mem_append_left _ member)
    rw [List.append_cons] at distinct
    have rest := @ih (members ++ [Node.ofLine line]) (by rwa [List.map_append])
    rw [insertAll, List.map_cons, List.foldlM_cons, Pair.plain, insert_undotted absent]
    rw [← List.append_cons] at rest
    exact rest

theorem insertAll_plain_nil (distinct : (lines.map Prod.fst).Nodup) :
    insertAll .header (lines.map Pair.plain) [] = some (lines.map Node.ofLine) :=
  insertAll_plain distinct

theorem build_section (absent : key ∉ root.map Prod.fst) (distinct : (lines.map Prod.fst).Nodup) :
    (Section.plain (key, lines)).build root = some (root ++ [Node.ofTable (key, lines)]) := by
  have table : insertAll .header (Section.plain (key, lines)).pairs [] =
      some (lines.map Node.ofLine) := insertAll_plain_nil distinct
  rw [Section.build, Section.plain, descend]
  refine (update_absent absent _).trans ?_
  exact congrArg (fun table => (table.map (Node.table .header)).map fun node => root ++ [(key, node)])
    table

theorem build_sections {tables : List (String × List (String × Datum))}
    (apart : (root.map Prod.fst ++ tables.map Prod.fst).Nodup)
    (distinct : ∀ table ∈ tables, (table.2.map Prod.fst).Nodup) :
    (tables.map Section.plain).foldlM (fun root part => part.build root) root =
      some (root ++ tables.map Node.ofTable) := by
  induction tables generalizing root with
  | nil => exact congrArg some (List.append_nil root).symm
  | cons table tables ih =>
    obtain ⟨here, others⟩ := List.forall_mem_cons.mp distinct
    rw [List.map_cons] at apart
    have absent : table.1 ∉ root.map Prod.fst := fun member =>
      (List.nodup_cons.mp (List.nodup_middle.mp apart)).1 (List.mem_append_left _ member)
    rw [List.append_cons] at apart
    have rest := @ih (root ++ [Node.ofTable table]) (by rwa [List.map_append]) others
    rw [List.map_cons, List.foldlM_cons, build_section absent here]
    rw [← List.append_cons] at rest
    exact rest

theorem membersToData_append (first second : Members) :
    membersToData (first ++ second) = membersToData first ++ membersToData second := by
  induction first with
  | nil => rfl
  | cons member first ih =>
    rw [List.cons_append, membersToData, ih, membersToData, List.cons_append]

theorem membersToData_lines (lines : List (String × Datum)) :
    membersToData (lines.map Node.ofLine) = lines := by
  induction lines with
  | nil => rfl
  | cons line lines ih =>
    rw [List.map_cons, Node.ofLine, membersToData, ih, Node.toDatum]

theorem membersToData_tables (tables : List (String × List (String × Datum))) :
    membersToData (tables.map Node.ofTable) =
      tables.map fun (name, lines) => (name, .table lines) := by
  induction tables with
  | nil => rfl
  | cons table tables ih =>
    rw [List.map_cons, Node.ofTable, membersToData, ih, Node.toDatum, membersToData_lines]
    rfl

theorem inlineTable_plain (distinct : (lines.map Prod.fst).Nodup) :
    inlineTable (lines.map Pair.plain) = some (.table lines) := by
  rw [inlineTable, insertAll_plain_nil distinct, Option.map_some, membersToData_lines]

/-- The lines before the first header come first, then a table for each header. -/
theorem build_plain {tables : List (String × List (String × Datum))}
    (apart : (lines.map Prod.fst ++ tables.map Prod.fst).Nodup)
    (distinct : ∀ table ∈ tables, (table.2.map Prod.fst).Nodup) :
    build (lines.map Pair.plain) (tables.map Section.plain) =
      some (.table (lines ++ tables.map fun (name, lines) => (name, .table lines))) := by
  have top := insertAll_plain_nil (List.nodup_append.mp apart).1
  have whole := @build_sections (lines.map Node.ofLine) tables (by rwa [Node.keys_ofLine]) distinct
  rw [build, top, Option.bind_eq_bind, Option.bind_some, whole, Option.bind_some,
    membersToData_append, membersToData_lines, membersToData_tables]
  rfl

end RingQueue.Toml
