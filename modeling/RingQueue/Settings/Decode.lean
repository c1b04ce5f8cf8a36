import RingQueue.Datum
import RingQueue.Settings.Basic

/-! Settings out of configuration values. A record may be given as a table, in which unknown
members are ignored, or as a list of its fields in order, of which the last may be missing.
A field that is absent has its default; one that is present has to fit. -/
namespace RingQueue

/-- How the value of a field is read. -/
structure Reading where
  text : Datum → Option String
  flag : Datum → Option Bool
  word : Datum → Option UInt64
  /-- Whether a list may be longer than the record. -/
  longLists : Bool

/-- Every value has to be of the field's own type. -/
def Reading.exact (longLists : Bool) : Reading where
  text
    | .text value => some value
    | _ => none
  flag
    | .bool value => some value
    | _ => none
  word
    | .whole value => if 0 ≤ value ∧ value < 2 ^ 64 then some (.ofNat value.toNat) else none
    | _ => none
  longLists := longLists

/-- The fields of a record as they were given. -/
inductive Fields where
  | named (members : List (String × Datum))
  | ordered (items : List Datum)

namespace Fields

/-- A value as a record of `count` fields. A date or time is a record none of whose fields is
known. -/
def of? (longLists : Bool) (count : Nat) : Datum → Option Fields
  | .table members => some (named members)
  | .moment _ => some (named [])
  | .list items => if longLists ∨ items.length ≤ count then some (ordered items) else none
  | _ => none

/-- The value given for the field of a name and a position. -/
def get? (fields : Fields) (name : String) (position : Nat) : Option Datum :=
  match fields with
  | named members => members.lookup name
  | ordered items => items[position]?

/-- A field's value: the default if none was given, nothing if the one given does not fit. -/
def read? (fields : Fields) (name : String) (position : Nat) (read : Datum → Option α)
    (default : α) : Option α :=
  match fields.get? name position with
  | none => some default
  | some value => read value

end Fields

def Logging.decode? (reading : Reading) (value : Datum) : Option Logging := do
  let fields ← Fields.of? reading.longLists 2 value
  let default : Logging := {}
  let level ← fields.read? "level" 0 reading.text default.level
  let json ← fields.read? "json" 1 reading.flag default.json
  return { level, json }

def Stress.decode? (reading : Reading) (value : Datum) : Option Stress := do
  let fields ← Fields.of? reading.longLists 6 value
  let default : Stress := {}
  let producers ← fields.read? "producers" 0 reading.word default.producers
  let consumers ← fields.read? "consumers" 1 reading.word default.consumers
  let itemsPerProducer ←
    fields.read? "items_per_producer" 2 reading.word default.itemsPerProducer
  let capacity ← fields.read? "capacity" 3 reading.word default.capacity
  let pinThreads ← fields.read? "pin_threads" 4 reading.flag default.pinThreads
  let timeoutMs ← fields.read? "timeout_ms" 5 reading.word default.timeoutMs
  return { producers, consumers, itemsPerProducer, capacity, pinThreads, timeoutMs }

def Settings.decode? (reading : Reading) (defaultEnv : String) (value : Datum) :
    Option Settings := do
  let fields ← Fields.of? reading.longLists 3 value
  let env ← fields.read? "env" 0 reading.text defaultEnv
  let logging ← fields.read? "logging" 1 (Logging.decode? reading) {}
  let stress ← fields.read? "stress" 2 (Stress.decode? reading) {}
  return { env, logging, stress }

end RingQueue
