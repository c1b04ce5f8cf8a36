import RingQueue.Proofs.Files.Directory
import RingQueue.Proofs.Layer.Document

/-! The files of a directory as layers. A file that is not there gives nothing, unless there is one
with a further ending behind its name. -/
namespace RingQueue

open RingQueue.Files

namespace Files

theorem IsName.append {name ending : String} (single : '/' ∉ name.toList)
    (plain : '/' ∉ ending.toList) (long : 2 < ending.toList.length) : IsName (name ++ ending) := by
  have other (short : String) (less : short.toList.length ≤ 2) : name ++ ending ≠ short :=
    fun same => by
      have length := congrArg (fun text => text.toList.length) same
      simp only [String.toList_append, List.length_append] at length
      omega
  refine ⟨other "" (by decide), ?_, other "." (by decide), other ".." (by decide)⟩
  rw [String.toList_append, List.mem_append, not_or]
  exact ⟨single, plain⟩

/-- The files of a directory are documents, which give some of the fields, each file by its name.
There are no others. -/
structure Tree.Holds (tree : Tree) (directory : String) (files : String → Option Given) :
    Prop where
  present : ∀ name given, files name = some given → ∃ text members,
    tree.read? (join directory name) = some text.toUTF8 ∧ Document text members given
  absent : ∀ name, IsName name → files name = none → tree.read? (join directory name) = none

/-- What the entries of a directory are is what it holds. -/
theorem Tree.Located.holds {tree : Tree} {directory : String} {location : List String}
    {files : String → Option Given} (there : tree.Located directory location)
    (present : ∀ name given, files name = some given → IsName name ∧ tree.Reaches directory name ∧
      ∃ text members, tree.entry? (location ++ [name]) = some (.file text.toUTF8) ∧
        Document text members given)
    (absent : ∀ name content, files name = none →
      tree.entry? (location ++ [name]) ≠ some (.file content)) : tree.Holds directory files where
  present name given here := by
    obtain ⟨plain, reaches, text, members, entry, document⟩ := present name given here
    exact ⟨text, members, there.read?_join plain reaches entry, document⟩
  absent name plain here :=
    there.read?_join_eq_none plain fun content => absent name content here

end Files

namespace Layer

/-- The names of the files all end in the same way, and none is just this ending. -/
def Named (files : String → Option Given) : Prop :=
  ∀ name, files name ≠ none → ∃ stem, stem ≠ "" ∧ name = stem ++ ".toml"

/-- What the file of a name gives, or else the one with the ending put behind the name once more. -/
def found (files : String → Option Given) (name : String) : Option Given :=
  (files name).or (files (name ++ ".toml"))

theorem ending_ne_toml {ending : String} {form : Form} (known : (ending, form) ∈ endings)
    (other : ending ≠ ".toml") (name stem : String) : name ++ ending ≠ stem ++ ".toml" := by
  intro same
  have last := congrArg (fun text => text.toList.reverse.take 3) same
  simp only [endings, List.mem_cons, Prod.mk.injEq, List.not_mem_nil, or_false] at known
  rcases known with ⟨rfl, -⟩ | ⟨rfl, -⟩ | ⟨rfl, -⟩ | ⟨rfl, -⟩ | ⟨rfl, -⟩ | ⟨rfl, -⟩ | ⟨rfl, -⟩
  · exact other rfl
  all_goals simp at last

variable {tree : Tree} {directory name : String} {files : String → Option Given}

theorem findSource?_of_present (holds : tree.Holds directory files) (named : Named files)
    (plain : IsName name) {given : Given} (here : files name = some given) :
    ∃ text members, findSource? tree (join directory name) = some (.toml, text.toUTF8) ∧
      Document text members given := by
  obtain ⟨text, members, read, document⟩ := holds.present name given here
  obtain ⟨stem, nonempty, shape⟩ := named name (by simp [here])
  have whole : (steps (join directory name)).getLast? ≠ some ".toml" := by
    rw [steps_join directory plain, List.getLast?_concat, shape]
    intro same
    refine nonempty (String.toList_inj.mp ?_)
    simpa [String.toList_append] using congrArg String.toList (Option.some.inj same)
  refine ⟨text, members, ?_, document⟩
  rw [findSource?, read]
  exact if_neg whole

theorem single_ending {ending : String} {form : Form} (known : (ending, form) ∈ endings) :
    '/' ∉ ending.toList ∧ 2 < ending.toList.length := by
  revert known
  simp only [endings, List.mem_cons, Prod.mk.injEq, List.not_mem_nil, or_false]
  rintro (⟨rfl, -⟩ | ⟨rfl, -⟩ | ⟨rfl, -⟩ | ⟨rfl, -⟩ | ⟨rfl, -⟩ | ⟨rfl, -⟩ | ⟨rfl, -⟩) <;> decide

theorem read?_ending (holds : tree.Holds directory files) (plain : IsName name) {ending : String}
    {form : Form} (known : (ending, form) ∈ endings) (absent : files (name ++ ending) = none) :
    tree.read? (join directory name ++ ending) = none := by
  obtain ⟨single, long⟩ := single_ending known
  rw [join_append plain]
  exact holds.absent _ (.append plain.single single long) absent

/-- Of the further endings only one is the ending of a file. -/
theorem findSource?_of_absent (holds : tree.Holds directory files) (named : Named files)
    (plain : IsName name) (absent : files name = none) :
    findSource? tree (join directory name) =
      (tree.read? (join directory (name ++ ".toml"))).map fun content => (.toml, content) := by
  have others (ending : String) (form : Form) (known : (ending, form) ∈ endings)
      (other : ending ≠ ".toml") : tree.read? (join directory name ++ ending) = none := by
    refine read?_ending holds plain known ?_
    cases present : files (name ++ ending) with
    | none => rfl
    | some given =>
      obtain ⟨stem, -, same⟩ := named (name ++ ending) (by simp [present])
      exact absurd same (ending_ne_toml known other name stem)
  let source (known : String × Form) : Option (Form × ByteArray) :=
    (tree.read? (join directory name ++ known.1)).map fun content => (known.2, content)
  have rest : (endings.drop 1).findSome? source = none := by
    rw [List.findSome?_eq_none_iff]
    rintro ⟨ending, form⟩ later
    have other : ending ≠ ".toml" := by
      rintro rfl
      exact absurd later (by simp [endings])
    exact Option.map_eq_none_iff.mpr (others ending form (List.mem_of_mem_drop later) other)
  rw [findSource?, holds.absent name plain absent]
  show (((".toml", Form.toml) :: endings.drop 1).findSome? source) = _
  have first : source (".toml", .toml) = (tree.read? (join directory name ++ ".toml")).map
      fun content => (.toml, content) := rfl
  rw [List.findSome?_cons, rest, first, ← join_append plain]
  cases tree.read? (join directory name ++ ".toml") <;> rfl

/-- The file of a path, or its absence, gives some of the fields. -/
def FileGives (tree : Tree) (path : String) (given : Given) : Prop :=
  ∃ entries, ofFile? tree path = some entries ∧ Gives entries given

theorem fileGives_of_none {path : String} (source : findSource? tree path = none) :
    FileGives tree path .nothing :=
  ⟨[], by rw [ofFile?, source], gives_nil⟩

theorem fileGives_of_document {path text : String} {members : List (String × Datum)}
    {given : Given} (source : findSource? tree path = some (.toml, text.toUTF8))
    (document : Document text members given) : FileGives tree path given := by
  obtain ⟨entries, parsed, gives⟩ := document.parse?
  exact ⟨entries, by rw [ofFile?, source]; simp only [parsed], gives⟩

theorem fileGives_of_holds (holds : tree.Holds directory files) (named : Named files)
    (plain : IsName name) :
    FileGives tree (join directory name) ((found files name).getD .nothing) := by
  cases here : files name with
  | some given =>
    obtain ⟨text, members, source, written⟩ := findSource?_of_present holds named plain here
    simpa [found, here] using fileGives_of_document source written
  | none =>
    have source := findSource?_of_absent holds named plain here
    have twice : IsName (name ++ ".toml") := .append plain.single (by decide) (by decide)
    cases further : files (name ++ ".toml") with
    | some given =>
      obtain ⟨text, members, read, written⟩ := holds.present _ given further
      rw [read] at source
      simpa [found, here, further] using fileGives_of_document source written
    | none =>
      rw [holds.absent _ twice further] at source
      simpa [found, here, further] using fileGives_of_none source

end Layer
end RingQueue
