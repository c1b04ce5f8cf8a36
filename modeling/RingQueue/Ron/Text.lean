import RingQueue.Number.Digits
import RingQueue.Text.Alphanumeric

/-! The texts of RON documents: what does not count, names, characters and strings. -/
namespace RingQueue.Ron

open RingQueue.Number

def isSpace (c : Char) : Bool :=
  " \t\n\r\x0b\x0c\u0085\u200e\u200f\u2028\u2029".toList.contains c

/-- Goes past a comment that may hold others. `level` counts those that are open in it. -/
def comment? : Nat → List Char → Option (List Char)
  | _, [] => none
  | level, '*' :: '/' :: rest => if level = 0 then some rest else comment? (level - 1) rest
  | level, '/' :: '*' :: rest => comment? (level + 1) rest
  | level, _ :: rest => comment? level rest

/-- Goes past white space and a number of comments. -/
def skipSome? : Nat → List Char → Option (List Char)
  | bound, text =>
    match text.dropWhile isSpace, bound with
    | '/' :: '/' :: rest, bound + 1 => skipSome? bound (rest.dropWhile (· ≠ '\n'))
    | '/' :: '*' :: rest, bound + 1 => (comment? 0 rest).bind (skipSome? bound)
    | '/' :: _, _ => none
    | rest, _ => some rest

def skip? (text : List Char) : Option (List Char) := skipSome? text.length text

/-! Names. -/

def startsName (c : Char) : Bool := c = '_' || Text.isLetter c

def isNameChar (c : Char) : Bool := c = '_' || Text.isAlphanumeric c

/-- The characters of names that are marked as such. -/
def isRawNameChar (c : Char) : Bool := isNameChar c || c = '.' || c = '+' || c = '-'

/-- Whether a text starts with a string or a byte in a notation that has a letter in front. -/
def startsQuoted : List Char → Bool
  | 'b' :: '"' :: _ | 'b' :: '\'' :: _ | 'b' :: 'r' :: '#' :: _ | 'b' :: 'r' :: '"' :: _ => true
  | 'r' :: '"' :: _ | 'r' :: '#' :: '"' :: _ | 'r' :: '#' :: '#' :: _ => true
  | _ => false

/-- Reads a name. Also answers whether it is marked as one. -/
def word? (text : List Char) : Option (Bool × List Char × List Char) :=
  if startsQuoted text then none
  else match text with
    | 'r' :: '#' :: rest =>
      let name := rest.takeWhile isRawNameChar
      if name = [] then none else some (true, name, rest.drop name.length)
    | c :: _ =>
      let name := text.takeWhile isNameChar
      if startsName c then some (false, name, text.drop name.length) else none
    | [] => none

/-- Reads the name of a field. The characters of marked names are no end of another. -/
def fieldName? (text : List Char) : Option (String × List Char) := do
  let (marked, name, rest) ← word? text
  if !marked ∧ (rest.head?.map isRawNameChar).getD false then none
  else return (.ofList name, rest)

/-! Characters and strings. -/

def byte? (text : List Char) : Option (UInt8 × List Char) :=
  if (text.take 2).length = 2 then
    (ofDigits? 16 (text.take 2)).map fun byte => (.ofNat byte, text.drop 2)
  else none

def onlyChar? (bytes : List UInt8) : Option Char :=
  (String.fromUTF8? ⟨bytes.toArray⟩).bind fun text => text.toList.head?

/-- Reads the bytes of a character, each as an escape, the first one behind its letter. `bound`
says how many there may be. -/
def bytes? : Nat → List UInt8 → List Char → Option (Char × List Char)
  | 0, _, _ => none
  | bound + 1, before, text => do
    let (byte, rest) ← byte? text
    let bytes := before ++ [byte]
    match onlyChar? bytes, rest with
    | some c, rest => return (c, rest)
    | none, '\\' :: 'x' :: rest => bytes? bound bytes rest
    | none, _ => none

def escapeLetter? (c : Char) : Option Char :=
  if c = '\'' ∨ c = '"' ∨ c = '\\' then some c
  else if c = 'n' then some '\n'
  else if c = 'r' then some '\r'
  else if c = 't' then some '\t'
  else if c = '0' then some '\x00'
  else none

/-- Reads what follows a backslash. A character may be made of up to `width` bytes. -/
def escape? (width : Nat) : List Char → Option (Char × List Char)
  | 'x' :: rest => bytes? width [] rest
  | 'u' :: '\x7b' :: rest => do
    let figures := rest.takeWhile (isDigit 16)
    match rest.drop figures.length with
    | '\x7d' :: rest =>
      if figures.length ≤ 6 then return (← character? figures, rest) else none
    | _ => none
  | c :: rest => (escapeLetter? c).map fun named => (named, rest)
  | [] => none

def quotedChar? : List Char → Option (Char × List Char)
  | '\\' :: rest => do
    match ← escape? 1 rest with
    | (named, '\'' :: rest) => return (named, rest)
    | _ => none
  | c :: '\'' :: rest => some (c, rest)
  | _ => none

def string? : Nat → List Char → Option (List Char × List Char)
  | 0, _ | _, [] => none
  | bound + 1, c :: rest =>
    if c = '"' then some ([], rest)
    else if c = '\\' then do
      let (named, rest) ← escape? 4 rest
      let (content, rest) ← string? bound rest
      return (named :: content, rest)
    else (string? bound rest).map fun (content, rest) => (c :: content, rest)

/-- Reads up to a quote with as many number signs behind it. -/
def rawString? (signs : List Char) : List Char → Option (List Char × List Char)
  | [] => none
  | c :: rest =>
    if c = '"' ∧ signs.isPrefixOf rest then some ([], rest.drop signs.length)
    else (rawString? signs rest).map fun (content, rest) => (c :: content, rest)

def quoted? : List Char → Option (String × List Char)
  | '"' :: rest => (string? rest.length rest).map fun (content, rest) => (.ofList content, rest)
  | 'r' :: rest =>
    let signs := rest.takeWhile (· = '#')
    match rest.drop signs.length with
    | '"' :: rest => (rawString? signs rest).map fun (content, rest) => (.ofList content, rest)
    | _ => none
  | _ => none

end RingQueue.Ron
