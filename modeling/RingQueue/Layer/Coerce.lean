import RingQueue.Number.Format
import RingQueue.Settings.Decode

/-! Reading fields from layered values. Sources such as environment variables know no types, so
values are converted where that has a clear meaning. -/
namespace RingQueue.Layer

open RingQueue.Number

def lowerWord (text : String) : String := .ofList (text.toList.map Char.toLower)

def wordFlag? (text : String) : Option Bool :=
  let word := lowerWord text
  if word = "true" ∨ word = "on" ∨ word = "yes" then some true
  else if word = "false" ∨ word = "off" ∨ word = "no" then some false
  else none

def text? : Datum → Option String
  | .text value => some value
  | .moment value => some value
  | .bool value => some (if value then "true" else "false")
  | .whole value => some (signedDecimal value)
  | .float value => some (value.text .plain)
  | _ => none

def flag? : Datum → Option Bool
  | .bool value => some value
  | .whole value => some (value ≠ 0)
  | .float value => some value.isNonzero
  | .text value | .moment value =>
    if value = "1" then some true
    else if value = "0" then some false
    else wordFlag? value
  | _ => none

/-- An unsigned number. Those with a fraction are rounded. -/
def number? : Datum → Option UInt64
  | .whole value => if 0 ≤ value ∧ value < 2 ^ 64 then some (.ofNat value.toNat) else none
  | .float value => some (.ofNat value.toWord)
  | .bool value => some (if value then 1 else 0)
  | .text value | .moment value =>
    match wordFlag? value with
    | some flag => some (if flag then 1 else 0)
    | none => (unsigned? value.toList).map .ofNat
  | _ => none

def reading : Reading where
  text := text?
  flag := flag?
  word := number?
  longLists := true

end RingQueue.Layer
