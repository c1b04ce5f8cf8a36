import RingQueue.Proofs.Layer.File
import RingQueue.Proofs.Layer.Variables
import RingQueue.Proofs.Settings.Decode
import RingQueue.Proofs.Settings.Document
import RingQueue.Settings.Load

/-! Settings out of layers. Every field has the value of the last layer that gives it. -/
namespace RingQueue

open RingQueue.Files RingQueue.Layer

/-! ### From the values to the settings -/

theorem Layer.faithful_reading : Layer.reading.Faithful where
  text _ := rfl
  flag _ := rfl
  word := @Reading.exact_word true

theorem Layer.Shows.shownIn {members : List (String × Datum)} {given : Given}
    (shows : Shows (.table members) given) (part : Part) : part.ShownIn given members := by
  cases found : members.lookup part.name with
  | none =>
    refine .inr ⟨found, ?_⟩
    rintro field rfl
    have shown := shows.fields field
    rwa [Field.datum?, Datum.member?, Datum.members, found, Option.bind_none] at shown
  | some table =>
    obtain ⟨fields, rfl⟩ := shows.sound.parts part table found
    refine .inl ⟨fields, found, ?_⟩
    rintro field rfl
    have shown := shows.fields field
    rwa [Field.datum?, Datum.member?, Datum.members, found, Option.bind_some] at shown

/-- Layers that show values can be decoded, and the settings have these values. -/
theorem Settings.decode?_of_shows {root : Datum} {given : Given} (shows : Shows root given)
    (defaultEnv : String) :
    ∃ env, Settings.decode? Layer.reading defaultEnv root = some (given.settings env) := by
  obtain ⟨members, rfl⟩ := shows.sound.table
  have env : ∃ env, (Fields.named members).read? "env" 0 Layer.reading.text defaultEnv =
      some env := by
    rw [Fields.read?, Fields.get?]
    cases found : members.lookup "env" with
    | none => exact ⟨defaultEnv, rfl⟩
    | some value => exact Option.isSome_iff_exists.mp (shows.sound.env value found)
  obtain ⟨env, named⟩ := env
  exact ⟨env, Settings.decode?_of_shown Layer.faithful_reading named shows.shownIn⟩

/-! ### From the sources to the settings -/

namespace World

variable {world : World} {directory env : String} {assigned : Given}

/-- Sources that give some of the fields load, and each field has the value of the last source that
gives it. -/
theorem loadFromSources_eq {first second third : Given}
    (byDefault : FileGives world.files (join directory "default.toml") first)
    (byName : FileGives world.files (join directory (env ++ ".toml")) second)
    (byPlace : FileGives world.files (join directory "local.toml") third)
    (set : world.environment.Gives assigned) :
    world.loadFromSources directory env =
      .ok ((Given.last [first, second, third, assigned]).settings env) := by
  obtain ⟨entries₁, read₁, gives₁⟩ := byDefault
  obtain ⟨entries₂, read₂, gives₂⟩ := byName
  obtain ⟨entries₃, read₃, gives₃⟩ := byPlace
  have start : Shows (.table []) (.last []) := shows_empty
  have shows₁ : Shows _ (.last [first]) := start.apply gives₁
  have shows₂ : Shows _ (.last [first, second]) := shows₁.apply gives₂
  have shows₃ : Shows _ (.last [first, second, third]) := shows₂.apply gives₃
  have shows : Shows _ (.last [first, second, third, assigned]) :=
    shows₃.apply (gives_ofVariables set)
  obtain ⟨_, decoded⟩ := Settings.decode?_of_shows shows world.environment.defaultEnv
  have layers : world.layers? directory env = some (Layer.apply (Layer.apply (Layer.apply
      (Layer.apply (.table []) entries₁) entries₂) entries₃) (ofVariables world.environment)) := by
    simp only [layers?, sourceNames, List.mapM_cons, List.mapM_nil, read₁, read₂, read₃,
      Option.bind_eq_bind, Option.bind_some, Option.pure_def]
    rfl
  rw [loadFromSources, layers]
  simp only [decoded]
  rfl

theorem append_toml_ne (stem : String) :
    stem ++ ".toml" ≠ "default" ∧ stem ++ ".toml" ≠ "local" := by
  constructor <;> intro same <;>
    simpa using congrArg (fun text => text.toList.reverse.take 3) same

theorem mem_sourceNames {name : String} : name ∈ sourceNames env ↔
    name = "default.toml" ∨ name = env ++ ".toml" ∨ name = "local.toml" := by
  simp only [sourceNames, List.mem_cons, List.not_mem_nil, or_false]

/-- Every source is called by a stem with the ending. -/
theorem exists_stem {name : String} (source : name ∈ sourceNames env) :
    ∃ stem, name = stem ++ ".toml" ∧ (stem = env ∨ stem = "default" ∨ stem = "local") := by
  rcases mem_sourceNames.mp source with rfl | rfl | rfl
  · exact ⟨"default", by decide, .inr (.inl rfl)⟩
  · exact ⟨env, rfl, .inl rfl⟩
  · exact ⟨"local", by decide, .inr (.inr rfl)⟩

section Found

variable {files : String → Option Given}

/-- A file with a further ending is one of the sources anyway: that of the environment's name. -/
theorem found_eq (only : ∀ name, files name ≠ none → name ∈ sourceNames env) {name : String}
    (source : name ∈ sourceNames env) :
    found files name = files name ∨
      files name = none ∧ found files name = files (env ++ ".toml") := by
  rw [found]
  cases here : files name with
  | some given => exact .inl rfl
  | none =>
    rw [Option.none_or]
    cases further : files (name ++ ".toml") with
    | none => exact .inl rfl
    | some given =>
      obtain ⟨stem, rfl, -⟩ := exists_stem source
      have member := only (stem ++ ".toml" ++ ".toml") (by simp [further])
      rcases mem_sourceNames.mp member with same | same | same
      · exact absurd ((String.append_left_inj ".toml").mp (same : _ = "default" ++ ".toml"))
          (append_toml_ne stem).1
      · exact .inr ⟨rfl, same ▸ further.symm⟩
      · exact absurd ((String.append_left_inj ".toml").mp (same : _ = "local" ++ ".toml"))
          (append_toml_ne stem).2

theorem found_value (only : ∀ name, files name ≠ none → name ∈ sourceNames env) (name : String)
    (source : name ∈ sourceNames env) (field : Field) :
    (found files name).getD .nothing field = (files name).getD .nothing field ∨
      (files name).getD .nothing field = none ∧
        (found files name).getD .nothing field = (files (env ++ ".toml")).getD .nothing field := by
  rcases found_eq only source with same | ⟨absent, same⟩
  · exact .inl (by rw [same])
  · exact .inr ⟨by rw [absent]; rfl, by rw [same]⟩

/-- So it makes no difference that it is taken for a file that is not there. -/
theorem last_found (only : ∀ name, files name ≠ none → name ∈ sourceNames env)
    (assigned : Given) :
    Given.last
        ((sourceNames env).map (fun name => (found files name).getD .nothing) ++ [assigned]) =
      Given.last
        ((sourceNames env).map (fun name => (files name).getD .nothing) ++ [assigned]) := by
  funext field
  have byDefault := found_value only "default.toml" (mem_sourceNames.mpr (.inl rfl)) field
  have byName := found_value only (env ++ ".toml") (mem_sourceNames.mpr (.inr (.inl rfl))) field
  have byPlace := found_value only "local.toml" (mem_sourceNames.mpr (.inr (.inr rfl))) field
  simp only [sourceNames, List.map_cons, List.map_nil, List.cons_append, List.nil_append,
    Given.last_cons, Given.last_nil]
  replace byName := byName.elim id And.right
  rw [byName]
  -- What is taken twice stands in the place of something that gives nothing.
  rcases byDefault with first | ⟨absent₁, first⟩ <;> rcases byPlace with third | ⟨absent₃, third⟩
  · rw [first, third]
  · rw [first, third, absent₃]
    cases (files (env ++ ".toml")).getD .nothing field <;> simp
  · rw [first, third, absent₁]
    cases (files (env ++ ".toml")).getD .nothing field <;> simp
  · rw [first, third, absent₁, absent₃]
    cases (files (env ++ ".toml")).getD .nothing field <;> simp

end Found

theorem isName_local : IsName "local.toml" := ⟨by decide, by decide, by decide, by decide⟩

theorem isName_of_source (single : '/' ∉ env.toList) {name : String}
    (source : name ∈ sourceNames env) : IsName name := by
  rcases mem_sourceNames.mp source with rfl | rfl | rfl
  · exact isName_default
  · exact .append single (by decide) (by decide)
  · exact isName_local

theorem named_of_only {files : String → Option Given} (nonempty : env ≠ "")
    (only : ∀ name, files name ≠ none → name ∈ sourceNames env) : Named files := by
  intro name present
  obtain ⟨stem, rfl, rfl | rfl | rfl⟩ := exists_stem (only name present)
  · exact ⟨stem, nonempty, rfl⟩
  · exact ⟨"default", by decide, rfl⟩
  · exact ⟨"local", by decide, rfl⟩

/-- Every field of the settings that are loaded has the value of the last source that gives it: the
defaults' file, the file of the environment's name, the local file, and last the variables. A
field that none of them gives has its default. -/
theorem loadFromSources_of_holds {files : String → Option Given} (nonempty : env ≠ "")
    (single : '/' ∉ env.toList) (holds : world.files.Holds directory files)
    (only : ∀ name, files name ≠ none → name ∈ sourceNames env)
    (set : world.environment.Gives assigned) :
    ∃ settings, world.loadFromSources directory env = .ok settings ∧ settings.env = env ∧
      ∀ field, settings.value field =
        (Given.last ((sourceNames env).map (fun name => (files name).getD .nothing) ++ [assigned])
          field).getD ((Settings.default world.environment).value field) := by
  have named := named_of_only nonempty only
  have gives (name : String) (source : name ∈ sourceNames env) :=
    fileGives_of_holds holds named (isName_of_source single source)
  have loaded := loadFromSources_eq (gives "default.toml" (mem_sourceNames.mpr (.inl rfl)))
    (gives (env ++ ".toml") (mem_sourceNames.mpr (.inr (.inl rfl))))
    (gives "local.toml" (mem_sourceNames.mpr (.inr (.inr rfl)))) set
  refine ⟨_, loaded, rfl, fun field => ?_⟩
  rw [Given.value_settings, Given.value, ← last_found only assigned]
  cases field <;> rfl

/-- A source that gives one number. -/
def givenProducers (count : UInt64) : Given
  | .producers => some count
  | .level | .json | .consumers | .itemsPerProducer | .capacity | .pinThreads | .timeoutMs => none

theorem shown_three : Kind.word.shown (3 : UInt64) = "3" := by
  show Number.decimal 3 = "3"
  rw [Number.decimal, Number.digits_of_lt (by decide)]
  rfl

theorem gives_producers :
    Environment.Gives [("CIRCQ__STRESS__PRODUCERS", "3")] (givenProducers 3) where
  all field value here := by
    cases field with
    | producers =>
      obtain rfl := Option.some.inj here
      exact List.mem_singleton.mpr (Prod.ext (by decide) shown_three)
    | _ => cases here
  only name text member _ := by
    obtain ⟨rfl, rfl⟩ := Prod.mk.inj (List.mem_singleton.mp member)
    exact ⟨.producers, (3 : UInt64), rfl, by decide, shown_three.symm⟩
  plain field value here := by
    cases field with
    | producers =>
      obtain rfl := Option.some.inj here
      show UInt64.toNat 3 < 2 ^ 63
      decide
    | _ => cases here

def warning : Settings :=
  { env := "production", logging := { level := "warn" }, stress := { capacity := 64 } }

theorem loadFromSources_file_and_variable :
    ∃ settings,
      loadFromSources { bare.saved ["cwd"] warning with
          environment := [("CIRCQ__STRESS__PRODUCERS", "3")] } "/cwd" "dev" = .ok settings ∧
      settings =
        { warning with env := "dev", stress := { warning.stress with producers := 3 } } := by
  have fits : warning.Fits :=
    Settings.fits_of_lt (by decide) (by decide) (by decide) (by decide) (by decide)
  have only (name : String) (present : savedFiles warning name ≠ none) :
      name ∈ sourceNames "dev" := by
    rw [eq_of_savedFiles present]
    decide
  let world : World := { bare.saved ["cwd"] warning with
    environment := [("CIRCQ__STRESS__PRODUCERS", "3")] }
  obtain ⟨settings, loaded, env, fields⟩ := @loadFromSources_of_holds world "/cwd" "dev" _ _
    (by decide) (by decide) (holds_saved vacant_bare fits) only gives_producers
  refine ⟨settings, loaded, Settings.ext_value env fun field => ?_⟩
  rw [fields]
  cases field <;> rfl

end World

end RingQueue
