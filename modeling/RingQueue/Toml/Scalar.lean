import RingQueue.Datum
import RingQueue.Number.Reading
import RingQueue.Toml.Moment

/-! Unquoted values: booleans, numbers, dates and times. -/
namespace RingQueue.Toml

open RingQueue.Number

/-- Digits with single underscores between them, without the underscores. -/
def grouped? (base : Nat) : List Char → Option (List Char)
  | [] => none
  | c :: rest =>
    if isDigit base c then
      match rest with
      | [] => some [c]
      | '_' :: rest => (grouped? base rest).map (c :: ·)
      | rest => (grouped? base rest).map (c :: ·)
    else none

/-- A decimal whole number has no zero in front of other digits. -/
def noLeadingZero : List Char → Bool
  | '0' :: _ :: _ => false
  | _ => true

/-- Whole numbers beyond 128 bits are refused. -/
def inReach (n : Int) : Bool := -(2 ^ 127) ≤ n && n < 2 ^ 128

def decimal? (text : List Char) : Option Nat :=
  (grouped? 10 text).bind fun figures =>
    if noLeadingZero figures then ofDigits? 10 figures else none

def marked? : List Char → Option Nat
  | '0' :: 'x' :: rest => (grouped? 16 rest).bind (ofDigits? 16)
  | '0' :: 'o' :: rest => (grouped? 8 rest).bind (ofDigits? 8)
  | '0' :: 'b' :: rest => (grouped? 2 rest).bind (ofDigits? 2)
  | _ => none

def whole? (text : List Char) : Option Int :=
  let value : Option Int := match text with
    | '-' :: rest => (decimal? rest).map fun n => -(n : Int)
    | '+' :: rest => (decimal? rest).map Int.ofNat
    | _ =>
      match marked? text with
      | some n => some n
      | none => (decimal? text).map Int.ofNat
  value.filter inReach

def isExponentMark (c : Char) : Bool := c = 'e' || c = 'E'

/-- The digits of an exponent may start with zeros. -/
def exponentPart? : List Char → Option Int
  | '-' :: rest => ((grouped? 10 rest).bind (ofDigits? 10)).map fun n => -(n : Int)
  | '+' :: rest => ((grouped? 10 rest).bind (ofDigits? 10)).map Int.ofNat
  | rest => ((grouped? 10 rest).bind (ofDigits? 10)).map Int.ofNat

/-- A number with a fraction, an exponent or both, after its sign. -/
def magnitude? (negative : Bool) (text : List Char) : Option Binary64 := do
  if text = ['i', 'n', 'f'] then return .infinite negative
  if text = ['n', 'a', 'n'] then return .nan
  let mantissa := text.takeWhile fun c => !isExponentMark c
  let exponent ← match text.dropWhile fun c => !isExponentMark c with
    | [] => if '.' ∈ mantissa then some (0 : Int) else none
    | _ :: rest => exponentPart? rest
  let whole ← grouped? 10 (mantissa.takeWhile (· ≠ '.'))
  let fraction ← match mantissa.dropWhile (· ≠ '.') with
    | [] => some []
    | _ :: rest => grouped? 10 rest
  if noLeadingZero whole then
    let value := ofParts negative whole fraction exponent
    if value.isFinite then return value else none
  else none

def float? : List Char → Option Binary64
  | '-' :: rest => magnitude? true rest
  | '+' :: rest => magnitude? false rest
  | rest => magnitude? false rest

def scalar? (text : List Char) : Option Datum :=
  if text = ['t', 'r', 'u', 'e'] then some (.bool true)
  else if text = ['f', 'a', 'l', 's', 'e'] then some (.bool false)
  else
    match whole? text with
    | some n => some (.whole n)
    | none =>
      match float? text with
      | some value => some (.float value)
      | none => (moment? text).map .moment

def isScalarChar (c : Char) : Bool :=
  c.isAlphanum || c = '+' || c = '-' || c = '_' || c = '.' || c = ':'

/-- Splits off the unquoted text that a value consists of. Only the blank between a date and a
time is part of it. -/
def splitScalar (text : List Char) : List Char × List Char :=
  let first := text.takeWhile isScalarChar
  let rest := text.dropWhile isScalarChar
  match rest with
  | ' ' :: c :: more =>
    if endsInDate first && isDigit 10 c then
      (first ++ ' ' :: (c :: more).takeWhile isScalarChar, (c :: more).dropWhile isScalarChar)
    else (first, rest)
  | _ => (first, rest)

end RingQueue.Toml
