import RingQueue.Datum
import RingQueue.Number.Digits
import RingQueue.Text.Blank

/-! Reading INI documents. A document gives values to keys, those before the first header for
itself and those after a header for the section of that name. All values are text. -/
namespace RingQueue.Ini

open RingQueue.Number

/-- The character that an escape stands for, by the letter after the backslash. A character that is
no such letter stands for itself. -/
def escaped (c : Char) : Char :=
  if c = '0' then '\x00'
  else if c = 'a' then '\x07'
  else if c = 'b' then '\x08'
  else if c = 't' then '\t'
  else if c = 'r' then '\r'
  else if c = 'n' then '\n'
  else c

/-- The character of four hexadecimal digits, the first of which may be a plus sign. -/
def numbered? (figures : List Char) : Option Char :=
  character? (match figures with
    | '+' :: rest => rest
    | _ => figures)

/-- Reads up to a character that ends the text. `endStops` says whether the end of the document does
so as well. A backslash before a line end joins the lines. -/
def until? (stop : Char → Bool) (endStops : Bool) : Nat → List Char →
    Option (List Char × List Char)
  | _, [] => if endStops then some ([], []) else none
  | 0, _ => none
  | bound + 1, c :: rest =>
    if stop c then some ([], c :: rest)
    else if c = '\\' then
      match rest with
      | [] => none
      | '\n' :: rest => until? stop endStops bound rest
      | 'x' :: rest =>
        if (rest.take 4).length = 4 then do
          let named ← numbered? (rest.take 4)
          let (content, rest) ← until? stop endStops bound (rest.drop 4)
          return (named :: content, rest)
        else none
      | c :: rest =>
        (until? stop endStops bound rest).map fun (content, rest) => (escaped c :: content, rest)
    else (until? stop endStops bound rest).map fun (content, rest) => (c :: content, rest)

/-- Reads up to a character that has to come. -/
def upTo? (stop : Char → Bool) (text : List Char) : Option (List Char × List Char) :=
  until? stop false text.length text

def isLineEnd (c : Char) : Bool := c = '\n' || c = '\r'

/-- Reads a value from behind its sign. Quoted parts stand for their content, and the white space
around the rest does not count. `first` says whether nothing was read before. -/
def value? (first : Bool) : Nat → List Char → Option (List Char × List Char)
  | _, [] => some ([], [])
  | 0, _ => none
  | bound + 1, c :: rest =>
    if c = '"' ∨ c = '\'' then do
      let (content, rest) ← upTo? (· = c) rest
      let (others, rest) ← value? false bound (rest.drop 1)
      return (content ++ others, rest)
    else do
      let (content, rest) ← until? isLineEnd true (c :: rest).length (c :: rest)
      let trimmed := if first then Text.trim content else Text.trimRight content
      return (trimmed, rest)

def skipBlanks (text : List Char) : List Char :=
  text.dropWhile fun c => Text.isBlank c && !isLineEnd c

/-- Goes past white space. Also answers whether what follows starts a line. -/
def skipSpace (atStart : Bool) : List Char → Bool × List Char
  | [] => (atStart, [])
  | c :: rest => if Text.isBlank c then skipSpace (c = '\n') rest else (atStart, c :: rest)

/-- What has been read: the values of the document itself, and its sections, the latest first. -/
structure Progress where
  values : List (String × Datum) := []
  sections : List (String × List (String × Datum)) := []

/-- Adds a value to the latest section, or to the document. -/
def Progress.add (progress : Progress) (key value : List Char) : Progress :=
  let entry := (String.ofList key, Datum.text (.ofList value))
  match progress.sections with
  | [] => { progress with values := progress.values ++ [entry] }
  | (name, values) :: others =>
    { progress with sections := (name, values ++ [entry]) :: others }

/-- Reads to the end. `key` is a key that waits for its value; a comment has to start its line. -/
def lines? (key : List Char) (progress : Progress) (atStart : Bool) : Nat → List Char →
    Option Progress
  | bound, text =>
    match skipSpace atStart text, bound with
    | (_, []), _ => some progress
    | _, 0 => none
    | (atStart, c :: rest), bound + 1 =>
      if c = ';' ∨ c = '#' then
        if atStart then
          lines? key progress true bound ((rest.dropWhile (· ≠ '\n')).drop 1)
        else none
      else if c = '[' then do
        let (name, rest) ← upTo? (· = ']') rest
        let header := (String.ofList (Text.trim name), [])
        lines? key { progress with sections := header :: progress.sections } false bound
          (rest.drop 1)
      else if c = '=' ∨ c = ':' then
        if key = [] then none
        else do
          let rest := skipBlanks rest
          let (value, rest) ← value? true (rest.length + 1) rest
          lines? [] (progress.add key value) false bound rest
      else do
        let (name, rest) ← upTo? (fun c => c = '=' || c = ':') (c :: rest)
        lines? (Text.trim name) progress false bound rest

/-- The table that a document denotes. Of values, and of sections, of one name the last counts. -/
def parse? (document : String) : Option Datum := do
  let text := document.toList
  let progress ← lines? [] {} true (2 * text.length + 2) text
  let tables := progress.sections.reverse.map fun (name, values) =>
    (name, Datum.table (lastOnly values))
  return .table (lastOnly (progress.values ++ tables))

end RingQueue.Ini
