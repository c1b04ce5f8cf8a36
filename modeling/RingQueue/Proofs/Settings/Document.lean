import RingQueue.Proofs.Layer.File
import RingQueue.Proofs.Settings.Toml
import RingQueue.Settings.Load

/-! The document of settings as a layer. It gives every field, provided that its numbers are not
too large for a layer. Saved in a directory, it is a file there. -/
namespace RingQueue

open RingQueue.Files RingQueue.Layer

/-- The members of the settings' document. -/
def Settings.members (settings : Settings) : List (String × Datum) := [
  ("env", .text settings.env),
  ("logging", settings.logging.toDatum),
  ("stress", settings.stress.toDatum)]

/-- The numbers of settings that a layer can hold. -/
def Settings.Fits (settings : Settings) : Prop :=
  ∀ field : Field, field.kind.Fits (settings.value field)

namespace Settings

theorem fits_of_lt {settings : Settings} (producers : settings.stress.producers.toNat < 2 ^ 63)
    (consumers : settings.stress.consumers.toNat < 2 ^ 63)
    (items : settings.stress.itemsPerProducer.toNat < 2 ^ 63)
    (capacity : settings.stress.capacity.toNat < 2 ^ 63)
    (timeout : settings.stress.timeoutMs.toNat < 2 ^ 63) : settings.Fits
  | .producers => producers
  | .consumers => consumers
  | .itemsPerProducer => items
  | .capacity => capacity
  | .timeoutMs => timeout
  | .level | .json | .pinThreads => trivial

variable {settings : Settings} {key : String} {whole value : Datum} {field : Field}

theorem exists_of_mem_members (member : (key, whole) ∈ settings.members) :
    (key = "env" ∧ whole = .text settings.env) ∨ ∃ (part : Part) (fields : List (String × Datum)),
      key = part.name ∧ whole = .table fields ∧ ∀ name value, (name, value) ∈ fields →
        ∃ field : Field, field.part = part ∧ field.name = name ∧
          value = field.kind.datum (settings.value field) := by
  simp only [members, List.mem_cons, Prod.mk.injEq, List.not_mem_nil, or_false] at member
  rcases member with ⟨rfl, rfl⟩ | ⟨rfl, rfl⟩ | ⟨rfl, rfl⟩
  · exact .inl ⟨rfl, rfl⟩
  · refine .inr ⟨.logging, _, rfl, rfl, fun name value member => ?_⟩
    simp only [List.mem_cons, Prod.mk.injEq, List.not_mem_nil, or_false] at member
    rcases member with ⟨rfl, rfl⟩ | ⟨rfl, rfl⟩
    · exact ⟨.level, rfl, rfl, rfl⟩
    · exact ⟨.json, rfl, rfl, rfl⟩
  · refine .inr ⟨.stress, _, rfl, rfl, fun name value member => ?_⟩
    simp only [List.mem_cons, Prod.mk.injEq, List.not_mem_nil, or_false] at member
    rcases member with ⟨rfl, rfl⟩ | ⟨rfl, rfl⟩ | ⟨rfl, rfl⟩ | ⟨rfl, rfl⟩ | ⟨rfl, rfl⟩ | ⟨rfl, rfl⟩
    · exact ⟨.producers, rfl, rfl, rfl⟩
    · exact ⟨.consumers, rfl, rfl, rfl⟩
    · exact ⟨.itemsPerProducer, rfl, rfl, rfl⟩
    · exact ⟨.capacity, rfl, rfl, rfl⟩
    · exact ⟨.pinThreads, rfl, rfl, rfl⟩
    · exact ⟨.timeoutMs, rfl, rfl, rfl⟩

theorem exists_sets (settings : Settings) (field : Field) :
    ∃ key whole, (key, whole) ∈ settings.members ∧
      Sets key whole field (field.kind.datum (settings.value field)) := by
  have here : ∃ fields, (field.part.name, .table fields) ∈ settings.members ∧
      (field.name, field.kind.datum (settings.value field)) ∈ fields := by
    cases field <;>
      simp [members, Field.part, Field.name, Part.name, Logging.toDatum, Stress.toDatum, value,
        Field.kind, Kind.datum]
  obtain ⟨fields, table, member⟩ := here
  exact ⟨_, _, table, .inside field fields _ member⟩

theorem gives_members (settings : Settings) : Gives settings.members settings.given where
  each key whole member := by
    rcases exists_of_mem_members member with ⟨rfl, rfl⟩ | ⟨part, fields, rfl, rfl, -⟩
    · exact .env _ rfl
    · exact .part part fields
  fields field value := by
    constructor
    · rintro ⟨key, whole, member, sets⟩
      rcases exists_of_mem_members member with ⟨rfl, rfl⟩ | ⟨part, fields, rfl, rfl, known⟩
      · exact absurd sets not_sets_env
      · obtain ⟨here, member⟩ := sets.of_part
        obtain ⟨other, there, named, rfl⟩ := known field.name value member
        obtain rfl := Field.eq_of_name (there.trans here.symm) named
        rfl
    · intro shown
      obtain rfl := Option.some.inj shown
      exact settings.exists_sets field

theorem inReach_datum {kind : Kind} {value : kind.Value} (fits : kind.Fits value) :
    (kind.datum value).InReach := by
  cases kind with
  | text => exact .text value
  | flag => exact .bool value
  | word =>
    have small : UInt64.toNat value < 2 ^ 63 := fits
    exact .whole _ (by omega) (by omega)

theorem inReach_members (fits : settings.Fits) : (Datum.table settings.members).InReach := by
  refine .table _ fun key whole member => ?_
  rcases exists_of_mem_members member with ⟨rfl, rfl⟩ | ⟨part, fields, rfl, rfl, known⟩
  · exact .text _
  · refine .table _ fun name value member => ?_
    obtain ⟨field, -, -, rfl⟩ := known name value member
    exact inReach_datum (fits field)

/-- What is saved can be read as a layer. -/
theorem document_toToml (fits : settings.Fits) :
    Document settings.toToml settings.members settings.given where
  parsed := settings.parse?_toToml
  gives := settings.gives_members
  reach := inReach_members fits

end Settings

namespace World

variable {world : World} {directory : String} {location : List String} {settings : Settings}

/-- A directory in which a file can be written, and is then the only one. -/
structure Vacant (world : World) (directory : String) (location : List String) : Prop where
  there : world.files.Located directory location
  reaches : world.files.Reaches directory "default.toml"
  short : ∀ step ∈ location ++ ["default.toml"], step.utf8ByteSize ≤ Tree.longestName
  free : world.files.isDirectoryAt (location ++ ["default.toml"]) = false
  alone : ∀ name content, name ≠ "default.toml" →
    world.files.entry? (location ++ [name]) ≠ some (.file content)

/-- The world after settings have been saved. -/
def saved (world : World) (location : List String) (settings : Settings) : World :=
  { world with
    files := world.files.put (location ++ ["default.toml"]) settings.toToml.toUTF8 }

theorem isName_default : IsName "default.toml" := ⟨by decide, by decide, by decide, by decide⟩

theorem save?_of_vacant (vacant : world.Vacant directory location) (settings : Settings) :
    world.save? settings (join directory "default.toml") =
      some (world.saved location settings) := by
  rw [save?, vacant.there.write?_join isName_default vacant.reaches _ vacant.free vacant.short]
  rfl

theorem read?_saved (vacant : world.Vacant directory location) (settings : Settings) :
    (world.saved location settings).files.read? (join directory "default.toml") =
      some settings.toToml.toUTF8 := by
  have nonempty : location ++ ["default.toml"] ≠ [] := by simp
  refine (vacant.there.put nonempty vacant.free _).read?_join isName_default
    (vacant.reaches.put _ _) ?_
  rw [Tree.entry?_put nonempty, if_pos rfl]

/-- The only file that there is gives all fields. -/
def savedFiles (settings : Settings) (name : String) : Option Given :=
  if name = "default.toml" then some settings.given else none

theorem eq_of_savedFiles {name : String} (present : savedFiles settings name ≠ none) :
    name = "default.toml" := by
  rw [savedFiles] at present
  split at present
  · assumption
  · exact absurd rfl present

theorem holds_saved (vacant : world.Vacant directory location) (fits : settings.Fits) :
    (world.saved location settings).files.Holds directory (savedFiles settings) := by
  have nonempty : location ++ ["default.toml"] ≠ [] := by simp
  refine (vacant.there.put nonempty vacant.free _).holds (fun name given here => ?_)
    (fun name content here => ?_)
  · rw [savedFiles] at here
    split at here
    · rename_i same
      obtain rfl := Option.some.inj here
      subst same
      refine ⟨isName_default, vacant.reaches.put _ _, _, _, ?_, Settings.document_toToml fits⟩
      rw [Tree.entry?_put nonempty, if_pos rfl]
    · cases here
  · rw [savedFiles] at here
    split at here
    · cases here
    · rename_i other
      rw [Tree.entry?_put nonempty, if_neg (by simpa using other)]
      exact vacant.alone name content other

/-- A world of one empty directory. -/
def bare : World where
  files := { entries := [(["cwd"], .directory)], current := [] }
  environment := []

theorem vacant_bare : bare.Vacant "/cwd" ["cwd"] where
  there := ⟨by decide, by decide⟩
  reaches := ⟨by decide, by decide⟩
  short := by decide
  free := by decide
  alone name content other := by
    simp [bare, Tree.entry?, List.lookup_cons]

end World
end RingQueue
