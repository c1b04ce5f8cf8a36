import RingQueue.Number.Digits
import RingQueue.Yaml.Cursor

/-! Tags and directives of YAML documents. A tag is a handle, which directives may give a meaning,
and a suffix. -/
namespace RingQueue.Yaml

open RingQueue.Number

/-- The characters of tags. A percent sign announces a character by its bytes. -/
def isUriChar (c : Char) : Bool :=
  c.isAlphanum || c = '-' || "#;/?:@&=+$,_.!~*'()[]%".toList.contains c

def isTagChar (c : Char) : Bool := isUriChar c && !isFlowMark c && c ≠ '!'

/-- Reads a byte that is written as a percent sign and two digits. -/
def uriByte? (cursor : Cursor) : Option (Nat × Cursor) :=
  match cursor.rest with
  | '%' :: first :: second :: _ =>
    (ofDigits? 16 [first, second]).map fun byte => (byte, cursor.skip 3)
  | _ => none

/-- Reads a character that is written as bytes. Of two bytes the first one has eight bits more. -/
def uriEscape? (cursor : Cursor) : Option (Char × Cursor) := do
  let (first, cursor) ← uriByte? cursor
  if first < 0x80 then return (.ofNat first, cursor)
  else if 0xc0 ≤ first ∧ first < 0xe0 then
    let (second, cursor) ← uriByte? cursor
    let value := first * 2 ^ 8 + second
    if 0x80 ≤ second ∧ second < 0xc0 ∧ value.isValidChar then return (.ofNat value, cursor)
    else none
  else none

/-- Reads the characters of a tag that satisfy a test. -/
def uri? (test : Char → Bool) : Nat → Cursor → Option (List Char × Cursor)
  | 0, cursor => some ([], cursor)
  | bound + 1, cursor =>
    let c := cursor.peek
    if !test c then some ([], cursor)
    else do
      let (named, cursor) ← if c = '%' then uriEscape? cursor else some (c, cursor.skip 1)
      let (text, cursor) ← uri? test bound cursor
      return (named :: text, cursor)

/-- Reads characters of a tag to the last one that satisfies a test. -/
def uriRun? (test : Char → Bool) (cursor : Cursor) : Option (List Char × Cursor) :=
  uri? test cursor.rest.length cursor

/-- Reads an exclamation mark, a word and perhaps another mark. -/
def handle? (cursor : Cursor) : Option (List Char × Cursor) :=
  if cursor.peek = '!' then
    let cursor := cursor.skip 1
    let word := cursor.run isWordChar
    let cursor := cursor.skip word.length
    if cursor.peek = '!' then some ('!' :: word ++ ['!'], cursor.skip 1)
    else some ('!' :: word, cursor)
  else none

structure Tag where
  handle : String
  suffix : String
  deriving DecidableEq, Repr

/-- Reads a tag. One without a second mark has the first one as its handle, and one that is a mark
only has no handle. -/
def tag? (inFlow : Bool) (cursor : Cursor) : Option (Tag × Cursor) := do
  let (tag, cursor) ←
    if cursor.peekSecond = '<' then do
      let (suffix, cursor) ← uriRun? isUriChar (cursor.skip 2)
      if cursor.peek = '>' then some (⟨"", .ofList suffix⟩, cursor.skip 1) else none
    else do
      let (handle, cursor) ← handle? cursor
      let (suffix, cursor) ← uriRun? isTagChar cursor
      if 2 ≤ handle.length ∧ handle.getLast? = some '!' then
        if suffix = [] then none else some (⟨.ofList handle, .ofList suffix⟩, cursor)
      else
        let suffix := handle.drop 1 ++ suffix
        if suffix = [] then some (⟨"", "!"⟩, cursor)
        else some (⟨"!", .ofList suffix⟩, cursor)
  let c := cursor.peek
  if isGap c ∨ (inFlow ∧ isFlowMark c) then return (tag, cursor) else none

/-! Directives. -/

inductive Directive where
  /-- The version of the language, which changes nothing. -/
  | version
  /-- What a handle stands for. -/
  | handle (name expansion : String)
  deriving DecidableEq, Repr

/-- Goes past the digits of a number that is not too long. -/
def skipNumber? (cursor : Cursor) : Option Cursor :=
  let figures := cursor.run Char.isDigit
  if figures ≠ [] ∧ figures.length ≤ 9 then some (cursor.skip figures.length) else none

def version? (cursor : Cursor) : Option Cursor := do
  let cursor ← skipNumber? (cursor.skipBlanks (cursor.run isBlank).length)
  if cursor.peek = '.' then skipNumber? (cursor.skip 1) else none

def expansion? (cursor : Cursor) : Option (List Char × Cursor) :=
  if cursor.peek = '!' then
    (uriRun? isUriChar (cursor.skip 1)).map fun (text, cursor) => ('!' :: text, cursor)
  else if isTagChar cursor.peek then uriRun? isUriChar cursor
  else none

/-- Reads a handle and what it stands for, behind the name of the directive. -/
def handleDirective? (cursor : Cursor) : Option (Directive × Cursor) := do
  let (name, cursor) ← handle? (cursor.skipBlanks (cursor.run isBlank).length)
  if name ≠ ['!'] ∧ name.getLast? ≠ some '!' then none
  else
    let (text, cursor) ← expansion? (cursor.skipBlanks (cursor.run isBlank).length)
    if isGap cursor.peek then return (.handle (.ofList name) (.ofList text), cursor) else none

/-- Reads a directive from its percent sign to the end of its line. One of another name gives the
empty handle no meaning. -/
def directive? (cursor : Cursor) : Option (Directive × Cursor) := do
  let cursor := cursor.skip 1
  let name := cursor.run isWordChar
  let cursor := cursor.skip name.length
  if name = [] ∨ !isGap cursor.peek then none
  else
    let (directive, cursor) ←
      if name = "YAML".toList then (version? cursor).map fun cursor => (.version, cursor)
      else if name = "TAG".toList then handleDirective? cursor
      else some (.handle "" "", cursor.skipLine)
    let (_, cursor) ← cursor.skipComment?
    if isBreakOrEnd cursor.peek then return (directive, cursor.skipBreak) else none

end RingQueue.Yaml
