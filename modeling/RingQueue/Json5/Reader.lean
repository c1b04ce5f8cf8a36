import RingQueue.Datum
import RingQueue.Number.Reading
import RingQueue.Text.Alphanumeric
import RingQueue.Text.Blank
import RingQueue.Text.Units

/-! Reading JSON5 documents: JSON with comments, names without quotes, commas before closing
brackets and more notations for numbers. -/
namespace RingQueue.Json5

open RingQueue.Number

def isLineEnd (c : Char) : Bool := c = '\n' || c = '\r' || c = '\u2028' || c = '\u2029'

def isSpace (c : Char) : Bool := c = '\ufeff' || (Text.isBlank c && c ≠ '\u0085')

/-- Goes past a comment between marks, if it is closed. -/
def comment? : List Char → Option (List Char)
  | [] => none
  | '*' :: '/' :: rest => some rest
  | _ :: rest => comment? rest

/-- Goes past white space and a number of comments. -/
def skipSome : Nat → List Char → List Char
  | bound, text =>
    match text.dropWhile isSpace, bound with
    | '/' :: '/' :: rest, bound + 1 => skipSome bound (rest.dropWhile (!isLineEnd ·))
    | '/' :: '*' :: rest, bound + 1 =>
      match comment? rest with
      | some rest => skipSome bound rest
      | none => '/' :: '*' :: rest
    | rest, _ => rest

def skip (text : List Char) : List Char := skipSome text.length text

/-! Strings and names. -/

/-- The character for the letter of an escape. Most characters stand for themselves. -/
def escapeLetter? (c : Char) : Option Char :=
  if c = 'b' then some '\x08'
  else if c = 'f' then some '\x0c'
  else if c = 'n' then some '\n'
  else if c = 'r' then some '\r'
  else if c = 't' then some '\t'
  else if c = 'v' then some '\x0b'
  else if c = '0' then some '\x00'
  else if c.isDigit then none
  else some c

/-- Reads what follows a backslash. A line end stands for nothing. -/
def escape? : List Char → Option (List Char × List Char)
  | '\r' :: '\n' :: rest => some ([], rest)
  | 'u' :: rest => (Text.ofUnits? rest).map fun (named, rest) => ([named], rest)
  | 'x' :: first :: second :: rest =>
    (character? [first, second]).map fun named => ([named], rest)
  | 'x' :: _ => none
  | c :: rest =>
    if isLineEnd c then some ([], rest)
    else (escapeLetter? c).map fun named => ([named], rest)
  | [] => none

def string? (quote : Char) : Nat → List Char → Option (List Char × List Char)
  | 0, _ | _, [] => none
  | bound + 1, c :: rest =>
    if c = quote then some ([], rest)
    else if c = '\\' then do
      let (named, rest) ← escape? rest
      let (content, rest) ← string? quote bound rest
      return (named ++ content, rest)
    else if isLineEnd c then none
    else (string? quote bound rest).map fun (content, rest) => (c :: content, rest)

def startsName (c : Char) : Bool := c = '$' || c = '_' || Text.isLetter c

def isNameChar (c : Char) : Bool :=
  c = '$' || c = '_' || c = '\u200c' || c = '\u200d' || Text.isAlphanumeric c

def name? (first : Bool) : Nat → List Char → Option (List Char × List Char)
  | bound + 1, '\\' :: 'u' :: rest => do
    let (named, rest) ← Text.ofUnits? rest
    let (name, rest) ← name? false bound rest
    return (named :: name, rest)
  | bound + 1, c :: rest =>
    if if first then startsName c else isNameChar c then
      (name? false bound rest).map fun (name, rest) => (c :: name, rest)
    else if first then none
    else some ([], c :: rest)
  | _, text => if first then none else some ([], text)

def key? (text : List Char) : Option (String × List Char) :=
  let found := match text with
    | '"' :: rest => string? '"' rest.length rest
    | '\'' :: rest => string? '\'' rest.length rest
    | _ => name? true text.length text
  found.map fun (name, rest) => (.ofList name, rest)

/-! Numbers. -/

/-- Reads an exponent, or nothing if there is none. -/
def exponentPart (text : List Char) : List Char × List Char :=
  match text with
  | c :: rest =>
    let sign := match rest with
      | '+' :: _ => ['+']
      | '-' :: _ => ['-']
      | _ => []
    let rest := rest.drop sign.length
    let figures := rest.takeWhile Char.isDigit
    if (c = 'e' ∨ c = 'E') ∧ figures ≠ [] then
      (c :: sign ++ figures, rest.drop figures.length)
    else ([], text)
  | [] => ([], [])

/-- Reads a decimal number without its sign: its whole part, whether there is a point, the digits
behind it, the exponent, and the rest. -/
def decimal? (text : List Char) : Option ((List Char × Bool × List Char × List Char) × List Char) :=
  let whole := match text with
    | '0' :: _ => ['0']
    | _ => text.takeWhile Char.isDigit
  let rest := text.drop whole.length
  let (point, rest) := match rest with
    | '.' :: rest => (true, rest)
    | _ => (false, rest)
  let fraction := if point then rest.takeWhile Char.isDigit else []
  if whole = [] ∧ fraction = [] then none
  else
    let (exponent, rest) := exponentPart (rest.drop fraction.length)
    some ((whole, point, fraction, exponent), rest)

/-- Reads a number. Those without point and exponent have 64 bits with a sign, and hexadecimal ones
have 32 bits and no sign. -/
def number? (text : List Char) : Option (Datum × List Char) :=
  let (sign, text) := match text with
    | '+' :: rest => (['+'], rest)
    | '-' :: rest => (['-'], rest)
    | _ => ([], text)
  let negative := sign = ['-']
  if "Infinity".toList.isPrefixOf text then some (.float (.infinite negative), text.drop 8)
  else if "NaN".toList.isPrefixOf text then some (.float .nan, text.drop 3)
  else
    let marked := match text with
      | '0' :: 'x' :: rest | '0' :: 'X' :: rest => rest.takeWhile (isDigit 16)
      | _ => []
    if marked ≠ [] then
      match sign, ofDigits? 16 marked with
      | [], some value =>
        if value < 2 ^ 32 then some (.whole value, text.drop (2 + marked.length)) else none
      | _, _ => none
    else do
      let ((whole, point, fraction, exponent), rest) ← decimal? text
      if point ∨ exponent ≠ [] then
        let value ← Binary64.parse? (sign ++ whole ++ ['.'] ++ fraction ++ exponent)
        if value.isFinite then return (.float value, rest) else none
      else return (.whole (← signed? (sign ++ whole)), rest)

/-! Values. -/

mutual

/-- Reads a value. `bound` bounds the steps. -/
def value? : Nat → List Char → Option (Datum × List Char)
  | 0, _ => none
  | bound + 1, text =>
    match text with
    | 'n' :: 'u' :: 'l' :: 'l' :: rest => some (.nil, rest)
    | 't' :: 'r' :: 'u' :: 'e' :: rest => some (.bool true, rest)
    | 'f' :: 'a' :: 'l' :: 's' :: 'e' :: rest => some (.bool false, rest)
    | '"' :: _ | '\'' :: _ => (key? text).map fun (content, rest) => (.text content, rest)
    | '[' :: rest => (items? bound rest).map fun (items, rest) => (.list items, rest)
    | '\x7b' :: rest =>
      (members? bound rest).map fun (members, rest) => (.table (lastOnly members), rest)
    | _ => number? text

/-- Reads the items of a list up to its closing bracket. -/
def items? : Nat → List Char → Option (List Datum × List Char)
  | 0, _ => none
  | bound + 1, text =>
    match skip text with
    | ']' :: rest => some ([], rest)
    | text => do
      let (item, rest) ← value? bound text
      match skip rest with
      | ',' :: rest =>
        let (items, rest) ← items? bound rest
        return (item :: items, rest)
      | ']' :: rest => return ([item], rest)
      | _ => none

/-- Reads the members of a table up to its closing brace. -/
def members? : Nat → List Char → Option (List (String × Datum) × List Char)
  | 0, _ => none
  | bound + 1, text =>
    match skip text with
    | '\x7d' :: rest => some ([], rest)
    | text => do
      let (name, rest) ← key? text
      match skip rest with
      | ':' :: rest =>
        let (value, rest) ← value? bound (skip rest)
        match skip rest with
        | ',' :: rest =>
          let (members, rest) ← members? bound rest
          return ((name, value) :: members, rest)
        | '\x7d' :: rest => return ([(name, value)], rest)
        | _ => none
      | _ => none

end

def parse? (document : String) : Option Datum := do
  let text := skip document.toList
  let (value, rest) ← value? (2 * text.length + 2) text
  if skip rest = [] then return value else none

end RingQueue.Json5
