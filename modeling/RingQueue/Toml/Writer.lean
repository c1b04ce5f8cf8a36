/-! Writing strings. Of the four notations the first that shows the content best is taken: a basic
string when nothing in it needs an escape, a literal string on one line, a basic string over
several lines, a literal one over several lines, and a basic one with escapes when control
characters leave no choice. -/
namespace RingQueue.Toml

/-- Whether `quote` stands more than `limit` times in a row, given how often it stood just
before. -/
def hasRun (quote : Char) (limit : Nat) : Nat → List Char → Bool
  | _, [] => false
  | before, c :: rest =>
    if c = quote then limit < before + 1 || hasRun quote limit (before + 1) rest
    else hasRun quote limit 0 rest

def needsEscape (c : Char) : Bool := (c.toNat < 32 && c ≠ '\t' && c ≠ '\n') || c.toNat = 127

/-- The notations of strings. -/
inductive Quotes where
  | basic
  | literal
  | multiBasic
  | multiLiteral
  deriving DecidableEq, Repr

namespace Quotes

def choose (content : List Char) : Quotes :=
  let escapes := content.any needsEscape
  let lineEnd := content.contains '\n'
  let backslash := content.contains '\\'
  if !escapes && !backslash && !content.contains '"' && !lineEnd then basic
  else if !escapes && !content.contains '\'' && !lineEnd then literal
  else if !escapes && !backslash && !hasRun '"' 2 0 content then multiBasic
  else if !escapes && !hasRun '\'' 2 0 content then multiLiteral
  else if lineEnd then multiBasic
  else basic

def delimiter : Quotes → List Char
  | basic => ['"']
  | literal => ['\'']
  | multiBasic => ['"', '"', '"']
  | multiLiteral => ['\'', '\'', '\'']

end Quotes

def upperHexChar (value : Nat) : Char :=
  if value < 10 then Char.ofNat (48 + value) else Char.ofNat (55 + value)

/-- A character other than a quote in a basic string. -/
def escapedChar (multiLine : Bool) (c : Char) : List Char :=
  if c = '\x08' then ['\\', 'b']
  else if c = '\t' then ['\\', 't']
  else if c = '\n' then if multiLine then ['\n'] else ['\\', 'n']
  else if c = '\x0c' then ['\\', 'f']
  else if c = '\r' then ['\\', 'r']
  else if c = '\\' then ['\\', '\\']
  else if needsEscape c then
    ['\\', 'u', '0', '0', upperHexChar (c.toNat / 16), upperHexChar (c.toNat % 16)]
  else [c]

/-- The content of a basic string. Over several lines, two quotes in a row need no escape; `run`
is the number of quotes just before. -/
def escaped (multiLine : Bool) : Nat → List Char → List Char
  | _, [] => []
  | run, c :: rest =>
    if c = '"' then
      if multiLine ∧ run < 2 then '"' :: escaped multiLine (run + 1) rest
      else '\\' :: '"' :: escaped multiLine 0 rest
    else escapedChar multiLine c ++ escaped multiLine 0 rest

/-- A string with its quotes. The content of a string over several lines starts on a line of its
own if it has a line end. -/
def quoted (text : String) : String :=
  let content := text.toList
  let quotes := Quotes.choose content
  let body := match quotes with
    | .basic => escaped false 0 content
    | .multiBasic => escaped true 0 content
    | .literal | .multiLiteral => content
  let start := if content.contains '\n' && (quotes = .multiBasic || quotes = .multiLiteral)
    then ['\n'] else []
  .ofList (quotes.delimiter ++ start ++ body ++ quotes.delimiter)

end RingQueue.Toml
