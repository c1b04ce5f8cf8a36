import RingQueue.Proofs.Settings.Decode
import RingQueue.Proofs.Toml.Document

/-! Settings written as a document are the settings that are read from it. Between the two stands
the table that the document denotes. -/
namespace RingQueue

open RingQueue.Toml RingQueue.Number

def Logging.toDatum (logging : Logging) : Datum :=
  .table [("level", .text logging.level), ("json", .bool logging.json)]

def Stress.toDatum (stress : Stress) : Datum :=
  .table [
    ("producers", .whole stress.producers.toNat),
    ("consumers", .whole stress.consumers.toNat),
    ("items_per_producer", .whole stress.itemsPerProducer.toNat),
    ("capacity", .whole stress.capacity.toNat),
    ("pin_threads", .bool stress.pinThreads),
    ("timeout_ms", .whole stress.timeoutMs.toNat)]

def Settings.toDatum (settings : Settings) : Datum :=
  .table [
    ("env", .text settings.env),
    ("logging", settings.logging.toDatum),
    ("stress", settings.stress.toDatum)]

/-! ### From the text to the table -/

theorem toList_assignment (key text : String) :
    (assignment key text).toList = key.toList ++ ' ' :: '=' :: ' ' :: (text.toList ++ ['\n']) := by
  simp [assignment]

theorem leaf_wordText (value : UInt64) :
    Leaf (wordText value).toList (.whole value.toNat) := by
  have small := value.toNat_lt
  rw [wordText, decimal, String.toList_ofList]
  exact leaf_decimal (by omega)

theorem leaf_flagText (value : Bool) : Leaf (flagText value).toList (.bool value) := by
  cases value with
  | true => exact leaf_scalar rfl rfl
  | false => exact leaf_scalar rfl rfl

theorem Settings.reads_toToml (settings : Settings) : Reads settings.toToml.toList
    [⟨[], "env", .text settings.env⟩]
    [⟨[], "logging", false,
        [⟨[], "level", .text settings.logging.level⟩, ⟨[], "json", .bool settings.logging.json⟩]⟩,
      ⟨[], "stress", false,
        [⟨[], "producers", .whole settings.stress.producers.toNat⟩,
          ⟨[], "consumers", .whole settings.stress.consumers.toNat⟩,
          ⟨[], "items_per_producer", .whole settings.stress.itemsPerProducer.toNat⟩,
          ⟨[], "capacity", .whole settings.stress.capacity.toNat⟩,
          ⟨[], "pin_threads", .bool settings.stress.pinThreads⟩,
          ⟨[], "timeout_ms", .whole settings.stress.timeoutMs.toNat⟩]⟩] := by
  have loggingHeader :
      "\n[logging]\n".toList = '\n' :: '[' :: ("logging".toList ++ ']' :: '\n' :: []) := rfl
  have stressHeader :
      "\n[stress]\n".toList = '\n' :: '[' :: ("stress".toList ++ ']' :: '\n' :: []) := rfl
  simp only [toToml, String.toList_append, toList_assignment, loggingHeader, stressHeader,
    List.append_assoc, List.cons_append, List.nil_append]
  apply Reads.pair ⟨by decide, rfl⟩ (leaf_quoted settings.env)
  apply Reads.header ⟨by decide, rfl⟩
  apply Reads.pair ⟨by decide, rfl⟩ (leaf_quoted settings.logging.level)
  apply Reads.pair ⟨by decide, rfl⟩ (leaf_flagText settings.logging.json)
  apply Reads.header ⟨by decide, rfl⟩
  apply Reads.pair ⟨by decide, rfl⟩ (leaf_wordText settings.stress.producers)
  apply Reads.pair ⟨by decide, rfl⟩ (leaf_wordText settings.stress.consumers)
  apply Reads.pair ⟨by decide, rfl⟩ (leaf_wordText settings.stress.itemsPerProducer)
  apply Reads.pair ⟨by decide, rfl⟩ (leaf_wordText settings.stress.capacity)
  apply Reads.pair ⟨by decide, rfl⟩ (leaf_flagText settings.stress.pinThreads)
  apply Reads.pair ⟨by decide, rfl⟩ (leaf_wordText settings.stress.timeoutMs)
  exact reads_nil

theorem Settings.parse?_toToml (settings : Settings) :
    parse? settings.toToml = some settings.toDatum := by
  have unmarked : settings.toToml.toList.head? ≠ some '\ufeff' := by
    simp [toToml, assignment]
  rw [parse?_of_reads settings.reads_toToml unmarked]
  rfl

/-! ### From the table to the settings -/

/-- Every field stands in the table of its part. -/
theorem Settings.shownIn_toDatum (settings : Settings) (part : Part) :
    part.ShownIn settings.given [("env", .text settings.env),
      ("logging", settings.logging.toDatum), ("stress", settings.stress.toDatum)] := by
  cases part with
  | logging =>
    refine .inl ⟨_, rfl, fun field here => ?_⟩
    cases field <;> first | rfl | cases here
  | stress =>
    refine .inl ⟨_, rfl, fun field here => ?_⟩
    cases field <;> first | rfl | cases here

theorem Settings.decode?_toDatum (settings : Settings) (defaultEnv : String) {longLists : Bool} :
    Settings.decode? (.exact longLists) defaultEnv settings.toDatum = some settings := by
  rw [toDatum, decode?_of_shown Reading.faithful_exact rfl settings.shownIn_toDatum, settings_given]

/-- Any settings have a document, and it is read as these very settings, whatever strings they hold
and whatever the environment says. -/
theorem Settings.ofToml_toToml (settings : Settings) (defaultEnv : String) :
    ofToml defaultEnv settings.toToml = .ok settings := by
  rw [ofToml, parse?_toToml, Option.bind_some, decode?_toDatum]

end RingQueue
