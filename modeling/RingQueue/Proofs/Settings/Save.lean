import RingQueue.Proofs.Settings.Load
import RingQueue.Proofs.Stress.Outcome

/-! Saving settings and loading them again. A document can hold every number of valid settings, but
a layer cannot: a time limit of 64 bits is written and then not read. -/
namespace RingQueue

open RingQueue.Files RingQueue.Layer

theorem Stress.toNat_of_workersInRange {count : UInt64}
    (inRange : ¬(!workersInRange count) = true) : 1 ≤ count.toNat ∧ count.toNat ≤ 256 := by
  simp only [workersInRange, maxWorkers, Bool.not_eq_true', Bool.not_eq_false, Bool.and_eq_true,
    decide_eq_true_eq, UInt64.le_iff_toNat_le] at inRange
  exact inRange

/-- Of the numbers of valid settings only the time limit can be too large for a layer. -/
theorem Settings.fits_of_valid {settings : Settings} (valid : settings.invalid? = none)
    (timeout : settings.stress.timeoutMs.toNat < 2 ^ 63) : settings.Fits := by
  have runnable := settings.runnable valid
  rw [invalid?] at valid
  split_ifs at valid
  rw [Stress.invalid?] at valid
  split_ifs at valid with producers consumers
  have producers := Stress.toNat_of_workersInRange producers
  have consumers := Stress.toNat_of_workersInRange consumers
  have items : settings.stress.itemsPerProducer.toNat ≤ 2 ^ 32 :=
    (Nat.le_mul_of_pos_left _ producers.1).trans runnable.items
  have capacity : settings.stress.capacity.toNat ≤ 65536 := by
    have supported := runnable.capacity
    simp only [Stress.supportedCapacities, List.mem_cons, List.not_mem_nil, or_false] at supported
    rcases supported with same | same | same | same | same <;> rw [same] <;> decide
  exact fits_of_lt (by omega) (by omega) (by omega) (by omega) timeout

namespace Layer

theorem settleMembers?_eq_none {members : List (String × Datum)} (name : String) {value : Datum}
    (member : (name, value) ∈ members) (fails : settle? value = none) :
    settleMembers? members = none := by
  induction members with
  | nil => cases member
  | cons first members ih =>
    rw [settleMembers?]
    rcases List.mem_cons.mp member with rfl | later
    · rw [fails]
      rfl
    · rw [ih later]
      cases settle? first.2 <;> rfl

theorem settle?_toDatum_eq_none {settings : Settings}
    (large : 2 ^ 63 ≤ settings.stress.timeoutMs.toNat) : settle? settings.toDatum = none := by
  have timeout : settle? (.whole settings.stress.timeoutMs.toNat) = none := by
    rw [settle?, if_neg (by omega)]
  have stress : settle? settings.stress.toDatum = none := by
    rw [Stress.toDatum, settle?, settleMembers?_eq_none "timeout_ms" (by simp) timeout]
    rfl
  rw [Settings.toDatum, settle?, settleMembers?_eq_none "stress" (by simp) stress]
  rfl

end Layer

namespace World

variable {world : World} {directory : String} {location : List String} {settings : Settings}

theorem named_savedFiles (settings : Settings) : Named (savedFiles settings) :=
  fun _ present => ⟨"default", by decide, eq_of_savedFiles present⟩

theorem found_savedFiles (settings : Settings) (name : String) :
    (found (savedFiles settings) name).getD .nothing = settings.given ∨
      (found (savedFiles settings) name).getD .nothing = .nothing := by
  rw [found, savedFiles, savedFiles]
  split
  · exact .inl rfl
  · split
    · exact .inl rfl
    · exact .inr rfl

theorem gives_nothing (unmarked : ∀ name text, (name, text) ∈ world.environment →
    isMarked name = false) : world.environment.Gives .nothing where
  all := nofun
  only name text member marked := by
    rw [unmarked name text member] at marked
    cases marked
  plain := nofun

theorem fileGives_saved (vacant : world.Vacant directory location) (fits : settings.Fits)
    {name : String} (plain : IsName name) :
    ∃ given, (given = settings.given ∨ given = .nothing) ∧
      FileGives (world.saved location settings).files (join directory name) given :=
  ⟨_, found_savedFiles settings name,
    fileGives_of_holds (holds_saved vacant fits) (named_savedFiles settings) plain⟩

/-- The same document once more changes nothing. -/
theorem last_given {second third : Given} (settings : Settings)
    (byName : second = settings.given ∨ second = .nothing)
    (byPlace : third = settings.given ∨ third = .nothing) :
    Given.last [settings.given, second, third, .nothing] = settings.given := by
  funext field
  simp only [Given.last_cons, Given.last_nil]
  rcases byName with rfl | rfl <;> rcases byPlace with rfl | rfl <;> rfl

section Load

variable (vacant : world.Vacant directory location)
include vacant

theorem loadFromSources_saved (fits : settings.Fits) {env : String}
    (elsewhere : '/' ∈ env.toList →
      findSource? (world.saved location settings).files (join directory (env ++ ".toml")) = none)
    (unmarked : ∀ name text, (name, text) ∈ world.environment → isMarked name = false) :
    (world.saved location settings).loadFromSources directory env = .ok { settings with env } := by
  have first : FileGives (world.saved location settings).files (join directory "default.toml")
      settings.given := by
    have gives := fileGives_of_holds (holds_saved vacant fits) (named_savedFiles settings)
      isName_default
    rwa [found, savedFiles, if_pos rfl] at gives
  obtain ⟨second, byName, gives₂⟩ : ∃ second, (second = settings.given ∨ second = .nothing) ∧
      FileGives (world.saved location settings).files (join directory (env ++ ".toml")) second := by
    by_cases single : '/' ∈ env.toList
    · exact ⟨.nothing, .inr rfl, fileGives_of_none (elsewhere single)⟩
    · exact fileGives_saved vacant fits (.append single (by decide) (by decide))
  obtain ⟨third, byPlace, gives₃⟩ := fileGives_saved vacant fits isName_local
  have set : (world.saved location settings).environment.Gives .nothing := gives_nothing unmarked
  rw [loadFromSources_eq first gives₂ gives₃ set, last_given settings byName byPlace,
    Settings.settings_given]

theorem findSource?_saved (settings : Settings) :
    findSource? (world.saved location settings).files (join directory "default.toml") =
      some (.toml, settings.toToml.toUTF8) := by
  have named : (steps (join directory "default.toml")).getLast? ≠ some ".toml" := by
    rw [steps_join directory isName_default, List.getLast?_concat]
    decide
  rw [findSource?, read?_saved vacant]
  exact if_neg named

theorem ofFile?_saved (large : 2 ^ 63 ≤ settings.stress.timeoutMs.toNat) :
    ofFile? (world.saved location settings).files (join directory "default.toml") = none := by
  have unread : Form.toml.parse? (contentText settings.toToml.toUTF8) = none := by
    rw [Form.parse?, parse?_contentText settings.parse?_toToml, Option.bind_some,
      settle?_toDatum_eq_none large]
  rw [ofFile?, findSource?_saved vacant]
  simp only [unread]

theorem loadFromSources_saved_of_large (large : 2 ^ 63 ≤ settings.stress.timeoutMs.toNat)
    (env : String) :
    (world.saved location settings).loadFromSources directory env = .error .building := by
  have layers : (world.saved location settings).layers? directory env = none := by
    rw [layers?, sourceNames, List.mapM_cons, ofFile?_saved vacant large]
    rfl
  rw [loadFromSources, layers]

theorem load_saved_of_large (large : 2 ^ 63 ≤ settings.stress.timeoutMs.toNat) :
    (world.saved location settings).load (some directory) =
      .error (.sources directory .building) := by
  rw [load, Option.getD_some, loadFromSources_saved_of_large vacant large]

theorem load_saved_of_fits (valid : settings.invalid? = none) (fits : settings.Fits)
    (elsewhere : '/' ∈ world.environment.defaultEnv.toList →
      findSource? (world.saved location settings).files
        (join directory (world.environment.defaultEnv ++ ".toml")) = none)
    (unmarked : ∀ name text, (name, text) ∈ world.environment → isMarked name = false) :
    (world.saved location settings).load (some directory) =
      .ok { settings with env := world.environment.defaultEnv } := by
  have loaded : (world.saved location settings).loadFromSources directory
      (world.saved location settings).environment.defaultEnv =
        .ok { settings with env := world.environment.defaultEnv } :=
    loadFromSources_saved vacant fits elsewhere unmarked
  have again : ({ settings with env := world.environment.defaultEnv } : Settings).invalid? = none :=
    valid
  rw [load, Option.getD_some, loaded]
  simp only [again]

end Load

/-- Valid settings can be saved as the only file of a directory. From there they are loaded, with
the environment's name in place of their own, exactly if their time limit has 63 bits. -/
theorem load_save_iff (valid : settings.invalid? = none) (vacant : world.Vacant directory location)
    (unmarked : ∀ name text, (name, text) ∈ world.environment → isMarked name = false) :
    ∃ saved, world.save? settings (join directory "default.toml") = some saved ∧
      (2 ^ 63 ≤ settings.stress.timeoutMs.toNat →
        saved.load (some directory) = .error (.sources directory .building)) ∧
      (('/' ∈ world.environment.defaultEnv.toList → findSource? saved.files
          (join directory (world.environment.defaultEnv ++ ".toml")) = none) →
        (saved.load (some directory) = .ok { settings with env := world.environment.defaultEnv } ↔
          settings.stress.timeoutMs.toNat < 2 ^ 63)) := by
  refine ⟨world.saved location settings, save?_of_vacant vacant settings,
    load_saved_of_large vacant, fun elsewhere => ⟨fun loaded => ?_, fun small => ?_⟩⟩
  · by_contra large
    rw [load_saved_of_large vacant (Nat.le_of_not_lt large)] at loaded
    cases loaded
  · exact load_saved_of_fits vacant valid (settings.fits_of_valid valid small) elsewhere unmarked

theorem load_save_default : ∃ saved, bare.save? warning "/cwd/default.toml" = some saved ∧
    saved.load (some "/cwd") = .ok { warning with env := "development" } := by
  obtain ⟨saved, written, -, loaded⟩ := load_save_iff (by decide +kernel : warning.invalid? = none)
    vacant_bare nofun
  exact ⟨saved, written, (loaded fun slash => absurd slash (by decide)).mpr (by decide)⟩

/-- The least time limit that is saved and then not loaded. -/
def patient : Settings := { env := "development", stress := { timeoutMs := 9223372036854775808 } }

theorem not_load_save_patient : patient.invalid? = none ∧
    ∃ saved, bare.save? patient "/cwd/default.toml" = some saved ∧
      saved.load (some "/cwd") = .error (.sources "/cwd" .building) :=
  ⟨by decide +kernel, bare.saved ["cwd"] patient, save?_of_vacant vacant_bare patient,
    load_saved_of_large vacant_bare (by decide +kernel)⟩

end World
end RingQueue
