import RingQueue.Settings.Decode
import RingQueue.Settings.Environment
import RingQueue.Settings.Toml

/-! The fields of settings, one by one. A source of settings gives some of them, and of several
sources the last that gives a field decides it. -/
namespace RingQueue

/-- The kinds of values that fields have. -/
inductive Kind where
  | text
  | flag
  | word
  deriving DecidableEq, Repr

namespace Kind

def Value : Kind → Type
  | text => String
  | flag => Bool
  | word => UInt64

/-- A value as sources hold it. -/
def datum : (kind : Kind) → kind.Value → Datum
  | text, value => .text value
  | flag, value => .bool value
  | word, value => .whole (UInt64.toNat value)

/-- A value as a variable holds it. -/
def shown : (kind : Kind) → kind.Value → String
  | text, value => value
  | flag, value => flagText value
  | word, value => wordText value

/-- Values that sources can hold: of the numbers, those of 63 bits. -/
def Fits : (kind : Kind) → kind.Value → Prop
  | text, _ => True
  | flag, _ => True
  | word, value => UInt64.toNat value < 2 ^ 63

end Kind

/-- The tables that fields stand in. -/
inductive Part where
  | logging
  | stress
  deriving DecidableEq, Repr

def Part.name : Part → String
  | logging => "logging"
  | stress => "stress"

theorem Part.name_ne_env (part : Part) : part.name ≠ "env" := by
  cases part <;> decide

theorem Part.eq_of_name {first second : Part} (same : first.name = second.name) :
    first = second := by
  cases first <;> cases second <;> first | rfl | exact absurd same (by decide)

inductive Field where
  | level
  | json
  | producers
  | consumers
  | itemsPerProducer
  | capacity
  | pinThreads
  | timeoutMs
  deriving DecidableEq, Repr

namespace Field

def kind : Field → Kind
  | level => .text
  | json | pinThreads => .flag
  | producers | consumers | itemsPerProducer | capacity | timeoutMs => .word

def part : Field → Part
  | level | json => .logging
  | _ => .stress

def name : Field → String
  | level => "level"
  | json => "json"
  | producers => "producers"
  | consumers => "consumers"
  | itemsPerProducer => "items_per_producer"
  | capacity => "capacity"
  | pinThreads => "pin_threads"
  | timeoutMs => "timeout_ms"

theorem eq_of_name {first second : Field} (part : first.part = second.part)
    (name : first.name = second.name) : first = second := by
  cases first <;> cases second <;> first | rfl | exact absurd part (by decide) |
    exact absurd name (by decide)

def upper (text : String) : String := .ofList (text.toList.map Char.toUpper)

/-- The name of the variable that sets the field. -/
def variableName (field : Field) : String :=
  "CIRCQ__" ++ upper field.part.name ++ "__" ++ upper field.name

end Field

example : Field.itemsPerProducer.variableName = "CIRCQ__STRESS__ITEMS_PER_PRODUCER" := by decide

/-- The value of a field. -/
def Settings.value (settings : Settings) : (field : Field) → field.kind.Value
  | .level => settings.logging.level
  | .json => settings.logging.json
  | .producers => settings.stress.producers
  | .consumers => settings.stress.consumers
  | .itemsPerProducer => settings.stress.itemsPerProducer
  | .capacity => settings.stress.capacity
  | .pinThreads => settings.stress.pinThreads
  | .timeoutMs => settings.stress.timeoutMs

/-- Settings are the name of their environment and their fields. -/
theorem Settings.ext_value {first second : Settings} (env : first.env = second.env)
    (fields : ∀ field, first.value field = second.value field) : first = second := by
  obtain ⟨_, ⟨_, _⟩, ⟨_, _, _, _, _, _⟩⟩ := first
  obtain ⟨_, ⟨_, _⟩, ⟨_, _, _, _, _, _⟩⟩ := second
  obtain rfl := env
  obtain rfl := fields .level
  obtain rfl := fields .json
  obtain rfl := fields .producers
  obtain rfl := fields .consumers
  obtain rfl := fields .itemsPerProducer
  obtain rfl := fields .capacity
  obtain rfl := fields .pinThreads
  obtain rfl := fields .timeoutMs
  rfl

/-- What a source gives: values for some of the fields. -/
abbrev Given := (field : Field) → Option field.kind.Value

/-- All fields of settings. -/
def Settings.given (settings : Settings) : Given := fun field => some (settings.value field)

namespace Given

def nothing : Given := fun _ => none

/-- What several sources give together: for each field the value of the last that gives one. -/
def last (sources : List Given) : Given :=
  fun field => (sources.filterMap fun given => given field).getLast?

theorem last_nil : last [] = nothing := rfl

theorem last_append (sources : List Given) (given : Given) (field : Field) :
    last (sources ++ [given]) field = (given field).or (last sources field) := by
  rw [last, List.filterMap_append]
  cases value : given field with
  | none => simp [value, last]
  | some value' => simp [value]

theorem last_cons (given : Given) (sources : List Given) (field : Field) :
    last (given :: sources) field = (last sources field).or (given field) := by
  rw [last, last, List.filterMap_cons]
  cases given field with
  | none => exact (Option.or_none).symm
  | some value =>
    dsimp only
    rw [List.getLast?_cons]
    cases (sources.filterMap fun given => given field).getLast? <;> rfl

end Given

end RingQueue
