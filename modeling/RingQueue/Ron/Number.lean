import RingQueue.Datum
import RingQueue.Number.Reading
import RingQueue.Ron.Text

/-! The numbers of RON documents. Whole ones may name their kind behind them, and all others may
name a width. -/
namespace RingQueue.Ron

open RingQueue.Number

def isWholeChar (c : Char) : Bool := isDigit 16 c || c = '_'

def isFloatChar (c : Char) : Bool :=
  c.isDigit || c = 'e' || c = 'E' || c = '.' || c = '+' || c = '-' || c = '_'

/-- Splits off a sign: whether it is a minus. -/
def sign (text : List Char) : Bool × List Char :=
  match text with
  | '-' :: rest => (true, rest)
  | '+' :: rest => (false, rest)
  | _ => (false, text)

/-- The end of the range of a kind of whole numbers, and whether they have signs. -/
def kind? (name : List Char) : Option (Nat × Bool) :=
  match String.ofList name with
  | "i8" => some (2 ^ 7, true)
  | "i16" => some (2 ^ 15, true)
  | "i32" => some (2 ^ 31, true)
  | "i64" => some (2 ^ 63, true)
  | "u8" => some (2 ^ 8, false)
  | "u16" => some (2 ^ 16, false)
  | "u32" => some (2 ^ 32, false)
  | "u64" => some (2 ^ 64, false)
  | _ => none

def ofKind? (negative : Bool) (value : Nat) (kind : Nat × Bool) : Option Int :=
  let (limit, signed) := kind
  if negative then
    if value ≤ (if signed then limit else 0) then some (-(value : Int)) else none
  else if value < limit then some value else none

def base (text : List Char) : Nat × List Char :=
  match text with
  | '0' :: 'x' :: rest => (16, rest)
  | '0' :: 'b' :: rest => (2, rest)
  | '0' :: 'o' :: rest => (8, rest)
  | _ => (10, text)

def whole? (text : List Char) : Option (Datum × List Char) := do
  let (negative, text) := sign text
  let (base, text) := base text
  let figures := text.takeWhile isWholeChar
  let rest := text.drop figures.length
  if figures.head? = some '_' then none
  else do
    let value ← ofDigits? base (figures.filter (· ≠ '_'))
    let name := rest.takeWhile isNameChar
    if rest.head? = some 'i' ∨ rest.head? = some 'u' then
      return (.whole (← ofKind? negative value (← kind? name)), rest.drop name.length)
    else
      let kind := if negative then (2 ^ 63, true) else (2 ^ 64, false)
      return (.whole (← ofKind? negative value kind), rest)

/-- Reads the width of a number, which is double unless it is given. -/
def width (value : Binary64) (text : List Char) : Binary64 × List Char :=
  let name := text.takeWhile isNameChar
  if name = "f32".toList then (value.toSingle, text.drop name.length)
  else if name = "f64".toList then (value, text.drop name.length)
  else (value, text)

def ofWord? (negative : Bool) (word : List Char) : Option Binary64 :=
  match String.ofList word with
  | "inf" | "inff32" | "inff64" => some (.infinite negative)
  | "NaN" | "NaNf32" | "NaNf64" => some .nan
  | _ => none

def float? (text : List Char) : Option (Datum × List Char) :=
  let (negative, body) := sign text
  let word := body.takeWhile isNameChar
  match ofWord? negative word with
  | some value => some (.float value, body.drop word.length)
  | none =>
    let figures := text.takeWhile isFloatChar
    (Binary64.parse? figures).map fun value =>
      let (value, rest) := width value (text.drop figures.length)
      (.float value, rest)

def byteChar? : List Char → Option (Datum × List Char)
  | 'b' :: '\'' :: '\\' :: 'x' :: rest => do
    match ← byte? rest with
    | (byte, '\'' :: rest) => return (.whole byte.toNat, rest)
    | _ => none
  | 'b' :: '\'' :: '\\' :: c :: '\'' :: rest =>
    (escapeLetter? c).map fun named => (.whole named.toNat, rest)
  | 'b' :: '\'' :: c :: '\'' :: rest =>
    if c ≠ '\\' ∧ c.toNat < 128 then some (.whole c.toNat, rest) else none
  | _ => none

/-- Reads a number. Whole ones that are out of range lose digits. -/
def number? (text : List Char) : Option (Datum × List Char) :=
  let (_, body) := sign text
  if (body.takeWhile isWholeChar).length < (body.takeWhile isFloatChar).length then float? text
  else if (base body).1 = 10 then
    match whole? text with
    | some found => some found
    | none =>
      let figures := body.takeWhile isWholeChar
      let rest := body.drop figures.length
      if figures ≠ [] ∧ (rest.head? = some 'i' ∨ rest.head? = some 'u') then none else float? text
  else whole? text

end RingQueue.Ron
