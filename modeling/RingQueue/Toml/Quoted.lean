import RingQueue.Number.Digits
import RingQueue.Toml.Character

/-! Strings in their four notations: basic ones with escapes and literal ones without, on one line
or over several. -/
namespace RingQueue.Toml

open RingQueue.Number

/-- The character for the letter of a short escape. -/
def shortEscape? (c : Char) : Option Char :=
  if c = 'b' then some '\x08'
  else if c = 't' then some '\t'
  else if c = 'n' then some '\n'
  else if c = 'f' then some '\x0c'
  else if c = 'r' then some '\r'
  else if c = 'e' then some '\x1b'
  else if c = '"' then some '"'
  else if c = '\\' then some '\\'
  else none

/-- The number of digits after the letter of a numeric escape. -/
def numericEscape? (c : Char) : Option Nat :=
  if c = 'x' then some 2 else if c = 'u' then some 4 else if c = 'U' then some 8 else none

/-- Reads what follows a backslash: the character it stands for and the rest. -/
def escape? : List Char → Option (Char × List Char)
  | [] => none
  | c :: rest =>
    match shortEscape? c with
    | some named => some (named, rest)
    | none =>
      match numericEscape? c with
      | some count =>
        if count ≤ rest.length then
          (character? (rest.take count)).map fun named => (named, rest.drop count)
        else none
      | none => none

/-- Reads a literal string on one line, after its opening quote. -/
def literal? : List Char → Option (List Char × List Char)
  | [] => none
  | c :: rest =>
    if c = '\'' then some ([], rest)
    else if isControl c then none
    else (literal? rest).map fun (content, rest) => (c :: content, rest)

/-- Reads a basic string on one line, after its opening quote. Each step uses up a character, so
the length of the text bounds the steps. -/
def basic? : Nat → List Char → Option (List Char × List Char)
  | 0, _ | _, [] => none
  | bound + 1, c :: rest =>
    if c = '"' then some ([], rest)
    else if c = '\\' then do
      let (named, rest) ← escape? rest
      let (content, rest) ← basic? bound rest
      return (named :: content, rest)
    else if isControl c then none
    else (basic? bound rest).map fun (content, rest) => (c :: content, rest)

/-- How a run of quotes in a string over several lines is to be read: fewer than three are
content; three end the string, and up to two more before them are content. -/
def closing? (quote : Char) (text : List Char) : Option (List Char × List Char) :=
  let run := (text.takeWhile (· = quote)).length
  if 3 ≤ run then
    let content := min run 5 - 3
    some (text.take content, text.drop (content + 3))
  else none

/-- Goes past a line end that directly follows the opening quotes. -/
def skipFirstLineEnd : List Char → List Char
  | '\n' :: rest => rest
  | '\r' :: '\n' :: rest => rest
  | text => text

/-- Reads a literal string over several lines, after its opening quotes. -/
def multiLiteral? : List Char → Option (List Char × List Char)
  | [] => none
  | '\r' :: '\n' :: rest =>
    (multiLiteral? rest).map fun (content, rest) => ('\r' :: '\n' :: content, rest)
  | c :: rest =>
    match if c = '\'' then closing? '\'' (c :: rest) else none with
    | some ended => some ended
    | none =>
      if isControl c && c ≠ '\n' then none
      else (multiLiteral? rest).map fun (content, rest) => (c :: content, rest)

def skipSpace : List Char → List Char
  | '\r' :: '\n' :: rest => skipSpace rest
  | c :: rest => if isBlank c || c = '\n' then skipSpace rest else c :: rest
  | [] => []

/-- A backslash before a line end joins the lines: all blanks and line ends up to the next other
character are left out. -/
def lineJoin? (text : List Char) : Option (List Char) :=
  match skipBlanks text with
  | '\n' :: rest => some (skipSpace rest)
  | '\r' :: '\n' :: rest => some (skipSpace rest)
  | _ => none

/-- Reads a basic string over several lines, after its opening quotes. -/
def multiBasic? : Nat → List Char → Option (List Char × List Char)
  | 0, _ | _, [] => none
  | bound + 1, '\r' :: '\n' :: rest =>
    (multiBasic? bound rest).map fun (content, rest) => ('\r' :: '\n' :: content, rest)
  | bound + 1, c :: rest =>
    if c = '\\' then
      match lineJoin? rest with
      | some rest => multiBasic? bound rest
      | none => do
        let (named, rest) ← escape? rest
        let (content, rest) ← multiBasic? bound rest
        return (named :: content, rest)
    else
      match if c = '"' then closing? '"' (c :: rest) else none with
      | some ended => some ended
      | none =>
        if isControl c && c ≠ '\n' then none
        else (multiBasic? bound rest).map fun (content, rest) => (c :: content, rest)

/-- Reads a string of any notation, from its opening quote. -/
def string? : List Char → Option (String × List Char)
  | '"' :: '"' :: '"' :: rest =>
    let rest := skipFirstLineEnd rest
    (multiBasic? rest.length rest).map fun (content, rest) => (.ofList content, rest)
  | '\'' :: '\'' :: '\'' :: rest =>
    (multiLiteral? (skipFirstLineEnd rest)).map fun (content, rest) => (.ofList content, rest)
  | '"' :: rest =>
    (basic? rest.length rest).map fun (content, rest) => (.ofList content, rest)
  | '\'' :: rest => (literal? rest).map fun (content, rest) => (.ofList content, rest)
  | _ => none

end RingQueue.Toml
