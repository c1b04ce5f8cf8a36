import RingQueue.Json.Value
import RingQueue.Number.Reading
import RingQueue.Text.Units

/-! Reading JSON. Whole numbers that fit in 64 bits stay exact. All other numbers are made of at
most 64 bits of digits, converted, and multiplied or divided by a power of ten, each step rounding
once. -/
namespace RingQueue.Json

open RingQueue.Number

/-- Arrays and objects may be nested this deep, less one. -/
def depthLimit : Nat := 128

def skipBlanks (text : List Char) : List Char :=
  text.dropWhile fun c => c = ' ' || c = '\n' || c = '\t' || c = '\r'

/-- The longest start of the digits that stays within 64 bits, continued from `value`, and how many
digits are left over. -/
def accumulate (value : Nat) : List Char → Nat × Nat
  | [] => (value, 0)
  | c :: rest =>
    let next := value * 10 + (digitValue? c).getD 0
    if next < 2 ^ 64 then accumulate next rest else (value, rest.length + 1)

/-- `number * 10 ^ exponent` by way of powers of ten that are themselves rounded. Out of range is
nothing. -/
def scaled? (value : Binary64) (exponent : Int) : Nat → Option Binary64
  | 0 => none
  | bound + 1 =>
    if exponent.natAbs ≤ 308 then
      let power := Binary64.ofNat (10 ^ exponent.natAbs)
      let result := if 0 ≤ exponent then value.mul power else value.div power
      if result.isFinite then some result else none
    else if !value.isNonzero then some value
    else if 0 ≤ exponent then none
    else scaled? (value.div (.ofNat (10 ^ 308))) (exponent + 308) bound

/-- The value of a number with the parts of its text. The sign comes last. -/
def numberOf? (negative : Bool) (whole : List Char) (fraction exponent : Option (List Char))
    (exponentNegative : Bool) : Option Value :=
  let (value, dropped) := accumulate 0 whole
  let signed (result : Binary64) : Binary64 :=
    match result with
    | .finite _ mantissa shift => .finite negative mantissa shift
    | other => other
  if fraction = none ∧ exponent = none ∧ dropped = 0 then
    if negative then
      if value = 0 ∨ 2 ^ 63 < value then some (.float (signed (.ofNat value)))
      else some (.whole (-(value : Int)))
    else some (.whole value)
  else
    let digits := fraction.getD []
    let (value, droppedAfter) := accumulate value digits
    let shift : Int := (dropped : Int) - (digits.length - droppedAfter : Nat)
    let power : Int := match exponent with
      | none => 0
      | some figures => valueOnto 10 figures 0
    let power := if exponentNegative then -power else power
    let result :=
      if 2 ^ 31 ≤ power.natAbs then
        if value ≠ 0 ∧ !exponentNegative then none else some Binary64.zero
      else scaled? (.ofNat value) (shift + power) (power.natAbs + shift.natAbs + 1)
    result.map fun result => .float (signed result)

/-- Splits off an exponent: whether it is negative, and its digits. -/
def exponentPart? : List Char → Option ((Bool × List Char) × List Char)
  | [] => none
  | c :: rest =>
    let negative := c = '-'
    let rest := if c = '-' ∨ c = '+' then rest else c :: rest
    let figures := rest.takeWhile (isDigit 10)
    if figures = [] then none
    else some ((negative, figures), rest.dropWhile (isDigit 10))

def number? (text : List Char) : Option (Value × List Char) := do
  let (negative, rest) := match text with
    | '-' :: rest => (true, rest)
    | _ => (false, text)
  let whole := match rest with
    | '0' :: _ => ['0']
    | _ => rest.takeWhile (isDigit 10)
  let rest := rest.drop whole.length
  if whole = [] ∨ (whole = ['0'] ∧ (rest.head?.map (isDigit 10)).getD false) then none
  else
    let (fraction, rest) ← match rest with
      | '.' :: rest =>
        let figures := rest.takeWhile (isDigit 10)
        if figures = [] then none else some (some figures, rest.dropWhile (isDigit 10))
      | _ => some (none, rest)
    let (exponent, rest) ← match rest with
      | c :: more =>
        if c = 'e' ∨ c = 'E' then (exponentPart? more).map fun (part, rest) => (some part, rest)
        else some (none, rest)
      | [] => some (none, rest)
    let value ← numberOf? negative whole fraction (exponent.map Prod.snd)
      ((exponent.map Prod.fst).getD false)
    return (value, rest)

def escape? (c : Char) : Option Char :=
  if c = '"' ∨ c = '\\' ∨ c = '/' then some c
  else if c = 'b' then some '\x08'
  else if c = 'f' then some '\x0c'
  else if c = 'n' then some '\n'
  else if c = 'r' then some '\r'
  else if c = 't' then some '\t'
  else none

def string? : Nat → List Char → Option (List Char × List Char)
  | 0, _ | _, [] => none
  | bound + 1, c :: rest =>
    if c = '"' then some ([], rest)
    else if c = '\\' then
      match rest with
      | 'u' :: rest => do
        let (named, rest) ← Text.ofUnits? rest
        let (content, rest) ← string? bound rest
        return (named :: content, rest)
      | c :: rest => do
        let named ← escape? c
        let (content, rest) ← string? bound rest
        return (named :: content, rest)
      | [] => none
    else if c.toNat < 32 then none
    else (string? bound rest).map fun (content, rest) => (c :: content, rest)

def quoted? (text : List Char) : Option (String × List Char) :=
  match text with
  | '"' :: rest =>
    (string? rest.length rest).map fun (content, rest) => (.ofList content, rest)
  | _ => none

mutual

/-- Reads a value. `depth` bounds the nesting and `bound` the steps. -/
def value? : Nat → Nat → List Char → Option (Value × List Char)
  | 0, _, _ => none
  | bound + 1, depth, text =>
    match text with
    | 'n' :: 'u' :: 'l' :: 'l' :: rest => some (.null, rest)
    | 't' :: 'r' :: 'u' :: 'e' :: rest => some (.bool true, rest)
    | 'f' :: 'a' :: 'l' :: 's' :: 'e' :: rest => some (.bool false, rest)
    | '"' :: _ => (quoted? text).map fun (content, rest) => (.string content, rest)
    | '[' :: rest =>
      match depth, skipBlanks rest with
      | 0, _ | 1, _ => none
      | _, ']' :: rest => some (.array [], rest)
      | depth + 1, rest =>
        (items? bound depth rest).map fun (items, rest) => (.array items, rest)
    | '\x7b' :: rest =>
      match depth, skipBlanks rest with
      | 0, _ | 1, _ => none
      | _, '\x7d' :: rest => some (.object [], rest)
      | depth + 1, rest =>
        (members? bound depth rest).map fun (members, rest) => (.object members, rest)
    | _ => number? text

/-- Reads the items of an array that has some, up to its closing bracket. -/
def items? : Nat → Nat → List Char → Option (List Value × List Char)
  | 0, _, _ => none
  | bound + 1, depth, text => do
    let (item, rest) ← value? bound depth (skipBlanks text)
    match skipBlanks rest with
    | ',' :: rest =>
      let (items, rest) ← items? bound depth rest
      return (item :: items, rest)
    | ']' :: rest => return ([item], rest)
    | _ => none

/-- Reads the members of an object that has some, up to its closing brace. -/
def members? : Nat → Nat → List Char → Option (List (String × Value) × List Char)
  | 0, _, _ => none
  | bound + 1, depth, text => do
    let (name, rest) ← quoted? (skipBlanks text)
    match skipBlanks rest with
    | ':' :: rest =>
      let (value, rest) ← value? bound depth (skipBlanks rest)
      match skipBlanks rest with
      | ',' :: rest =>
        let (members, rest) ← members? bound depth rest
        return ((name, value) :: members, rest)
      | '\x7d' :: rest => return ([(name, value)], rest)
      | _ => none
    | _ => none

end

def parse? (document : String) : Option Value :=
  let text := skipBlanks document.toList
  match value? (2 * text.length + 2) depthLimit text with
  | some (value, rest) => if skipBlanks rest = [] then some value else none
  | none => none

end RingQueue.Json
