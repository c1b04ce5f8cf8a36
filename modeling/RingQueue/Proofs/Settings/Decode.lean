import RingQueue.Proofs.Settings.Field

/-! From a table to the settings, whatever way values are read, as long as it reads the value of every
field back. A part that is not there is as good as one that gives nothing: its record has the same
defaults as its fields have alone. -/
namespace RingQueue

/-- The value that is given, or else the default. -/
def Given.value (given : Given) (field : Field) : field.kind.Value :=
  (given field).getD (({ env := "" } : Settings).value field)

/-- The settings with the values that are given. -/
def Given.settings (given : Given) (env : String) : Settings where
  env := env
  logging := { level := given.value .level, json := given.value .json }
  stress := {
    producers := given.value .producers
    consumers := given.value .consumers
    itemsPerProducer := given.value .itemsPerProducer
    capacity := given.value .capacity
    pinThreads := given.value .pinThreads
    timeoutMs := given.value .timeoutMs }

theorem Given.value_settings (given : Given) (env : String) (field : Field) :
    (given.settings env).value field = given.value field := by
  cases field <;> rfl

theorem Settings.settings_given (settings : Settings) (env : String) :
    settings.given.settings env = { settings with env } := rfl

/-- How a field is read. -/
def Kind.read (reading : Reading) : (kind : Kind) → Datum → Option kind.Value
  | text => reading.text
  | flag => reading.flag
  | word => reading.word

/-- Values of a field's own type are read back. -/
structure Reading.Faithful (reading : Reading) : Prop where
  text : ∀ value, reading.text (.text value) = some value
  flag : ∀ value, reading.flag (.bool value) = some value
  word : ∀ value : UInt64, reading.word (.whole value.toNat) = some value

theorem Reading.Faithful.read_datum {reading : Reading} (faithful : reading.Faithful) (kind : Kind)
    (value : kind.Value) : kind.read reading (kind.datum value) = some value := by
  cases kind with
  | text => exact faithful.text value
  | flag => exact faithful.flag value
  | word => exact faithful.word value

theorem Reading.exact_word {longLists : Bool} (value : UInt64) :
    (Reading.exact longLists).word (.whole value.toNat) = some value := by
  have small := value.toNat_lt
  simp only [exact]
  rw [if_pos (by omega), Int.toNat_natCast, UInt64.ofNat_toNat]

theorem Reading.faithful_exact {longLists : Bool} : (Reading.exact longLists).Faithful where
  text _ := rfl
  flag _ := rfl
  word := Reading.exact_word

variable {reading : Reading} {given : Given} {fields members : List (String × Datum)} {part : Part}

/-- A table shows what is given for the fields of a part. -/
def Part.ShownBy (part : Part) (given : Given) (fields : List (String × Datum)) : Prop :=
  ∀ field : Field, field.part = part →
    fields.lookup field.name = (given field).map field.kind.datum

/-- The table of a part, if it is there, shows what is given for its fields; otherwise nothing is. -/
def Part.ShownIn (part : Part) (given : Given) (members : List (String × Datum)) : Prop :=
  (∃ fields, members.lookup part.name = some (.table fields) ∧ part.ShownBy given fields) ∨
    members.lookup part.name = none ∧ part.ShownBy given []

section Decode

variable (faithful : reading.Faithful)
include faithful

theorem Part.ShownBy.read? (shown : part.ShownBy given fields) (field : Field)
    (here : field.part = part) (position : Nat) :
    (Fields.named fields).read? field.name position (field.kind.read reading)
      (({ env := "" } : Settings).value field) = some (given.value field) := by
  rw [Fields.read?, Fields.get?, shown field here, Given.value]
  cases given field with
  | none => rfl
  | some value => exact faithful.read_datum field.kind value

theorem Logging.decode?_of_shown (shown : Part.logging.ShownBy given fields) (env : String) :
    Logging.decode? reading (.table fields) = some (given.settings env).logging := by
  have level : (Fields.named fields).read? "level" 0 reading.text "info" =
    some (given.value .level) := shown.read? faithful .level rfl 0
  have json : (Fields.named fields).read? "json" 1 reading.flag false =
    some (given.value .json) := shown.read? faithful .json rfl 1
  simp only [decode?, Fields.of?, level, json, Option.bind_eq_bind, Option.bind_some]
  rfl

theorem Stress.decode?_of_shown (shown : Part.stress.ShownBy given fields) (env : String) :
    Stress.decode? reading (.table fields) = some (given.settings env).stress := by
  have producers : (Fields.named fields).read? "producers" 0 reading.word 2 =
    some (given.value .producers) := shown.read? faithful .producers rfl 0
  have consumers : (Fields.named fields).read? "consumers" 1 reading.word 1 =
    some (given.value .consumers) := shown.read? faithful .consumers rfl 1
  have items : (Fields.named fields).read? "items_per_producer" 2 reading.word 1024 =
    some (given.value .itemsPerProducer) := shown.read? faithful .itemsPerProducer rfl 2
  have capacity : (Fields.named fields).read? "capacity" 3 reading.word 1024 =
    some (given.value .capacity) := shown.read? faithful .capacity rfl 3
  have pin : (Fields.named fields).read? "pin_threads" 4 reading.flag false =
    some (given.value .pinThreads) := shown.read? faithful .pinThreads rfl 4
  have timeout : (Fields.named fields).read? "timeout_ms" 5 reading.word 10000 =
    some (given.value .timeoutMs) := shown.read? faithful .timeoutMs rfl 5
  simp only [decode?, Fields.of?, producers, consumers, items, capacity, pin, timeout,
    Option.bind_eq_bind, Option.bind_some]
  rfl

omit faithful in
/-- Where nothing is given, every field has its default. -/
theorem Part.ShownBy.value_of_nil (shown : part.ShownBy given []) (field : Field)
    (here : field.part = part) : given.value field = ({ env := "" } : Settings).value field := by
  have nothing : (given field).map field.kind.datum = none := (shown field here).symm
  rw [Given.value, Option.map_eq_none_iff.mp nothing, Option.getD_none]

theorem Part.ShownIn.read?_logging (shown : Part.logging.ShownIn given members) (env : String) :
    (Fields.named members).read? "logging" 1 (Logging.decode? reading) {} =
      some (given.settings env).logging := by
  rw [Fields.read?, Fields.get?]
  rcases shown with ⟨fields, found, shown⟩ | ⟨absent, shown⟩
  · rw [show members.lookup "logging" = _ from found]
    exact Logging.decode?_of_shown faithful shown env
  · rw [show members.lookup "logging" = _ from absent, Given.settings, shown.value_of_nil .level rfl,
      shown.value_of_nil .json rfl]
    rfl

theorem Part.ShownIn.read?_stress (shown : Part.stress.ShownIn given members) (env : String) :
    (Fields.named members).read? "stress" 2 (Stress.decode? reading) {} =
      some (given.settings env).stress := by
  rw [Fields.read?, Fields.get?]
  rcases shown with ⟨fields, found, shown⟩ | ⟨absent, shown⟩
  · rw [show members.lookup "stress" = _ from found]
    exact Stress.decode?_of_shown faithful shown env
  · rw [show members.lookup "stress" = _ from absent, Given.settings,
      shown.value_of_nil .producers rfl, shown.value_of_nil .consumers rfl,
      shown.value_of_nil .itemsPerProducer rfl, shown.value_of_nil .capacity rfl,
      shown.value_of_nil .pinThreads rfl, shown.value_of_nil .timeoutMs rfl]
    rfl

/-- A table in which the name of the environment can be read and both parts are shown is read as the
settings with what is given. -/
theorem Settings.decode?_of_shown {env defaultEnv : String}
    (named : (Fields.named members).read? "env" 0 reading.text defaultEnv = some env)
    (shown : ∀ part : Part, part.ShownIn given members) :
    Settings.decode? reading defaultEnv (.table members) = some (given.settings env) := by
  have logging := (shown .logging).read?_logging faithful env
  have stress := (shown .stress).read?_stress faithful env
  simp only [decode?, Fields.of?, named, logging, stress, Option.bind_eq_bind, Option.bind_some]
  rfl

end Decode

end RingQueue
