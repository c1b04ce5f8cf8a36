import RingQueue.Number.Digits
import RingQueue.Yaml.Cursor

/-! The texts of YAML documents: plain ones, quoted ones, and blocks of lines. A line end within a
plain or quoted text reads as a space, and further ones as they are. -/
namespace RingQueue.Yaml

open RingQueue.Number

/-- White space between two parts of a text. -/
structure Gap where
  /-- The blanks on the line of the first part, the last one first. -/
  blanks : List Char := []
  /-- Whether that line has ended. -/
  broken : Bool := false
  /-- The number of further line ends. -/
  breaks : Nat := 0

/-- What the white space reads as, the last character first. `apart` says whether the next part
starts its line. -/
def Gap.reading (gap : Gap) (apart : Bool) : List Char :=
  if !apart then gap.blanks
  else if gap.broken ∧ gap.breaks = 0 then [' ']
  else .replicate gap.breaks '\n'

/-- One more line end. -/
def Gap.break (gap : Gap) (apart : Bool) : Gap :=
  if apart then { gap with breaks := gap.breaks + 1 }
  else { gap with blanks := [], broken := true }

/-! Plain texts. -/

/-- A word of a plain text. A colon ends it before white space. -/
def plainWord (inFlow : Bool) : List Char → List Char
  | [] => []
  | c :: rest =>
    let next := rest.headD '\x00'
    if isGap c ∨ (inFlow ∧ isFlowMark c) then []
    else if c = ':' ∧ (isGap next ∨ (inFlow ∧ isFlowMark next)) then []
    else c :: plainWord inFlow rest

/-- Goes past white space in a plain text. Tabs do not indent anything. -/
def plainGap? (indent : Int) : Nat → Gap → Cursor → Option (Gap × Cursor)
  | 0, gap, cursor => some (gap, cursor)
  | bound + 1, gap, cursor =>
    let c := cursor.peek
    if isBlank c then
      if !cursor.fresh then
        plainGap? indent bound { gap with blanks := c :: gap.blanks } (cursor.skipBlanks 1)
      else if cursor.column < indent ∧ c = '\t' then do
        let (_, cursor) ← cursor.skipComment?
        if isBreakOrEnd cursor.peek then plainGap? indent bound gap cursor else none
      else plainGap? indent bound gap (cursor.skipBlanks 1)
    else if isBreak c then
      plainGap? indent bound (gap.break cursor.fresh) cursor.skipBreak
    else some (gap, cursor)

/-- Reads the rest of a plain text, of which `text` has been read, the last character first. -/
def plainFrom? (indent : Int) (inFlow : Bool) : Nat → List Char → Gap → Cursor →
    Option (List Char × Cursor)
  | 0, _, _, _ => none
  | bound + 1, text, gap, cursor =>
    if cursor.atDocumentStart ∨ cursor.atDocumentEnd ∨ cursor.peek = '#' then
      some (text.reverse, cursor)
    else if inFlow ∧ cursor.peek = '-' ∧ isFlowMark cursor.peekSecond then none
    else
      let word := plainWord inFlow cursor.rest
      let (text, gap) :=
        if word = [] then (text, gap) else (word.reverse ++ gap.reading cursor.fresh ++ text, {})
      let cursor := cursor.skip word.length
      if !isBlank cursor.peek ∧ !isBreak cursor.peek then some (text.reverse, cursor)
      else do
        let (gap, cursor) ← plainGap? indent cursor.rest.length gap cursor
        if !inFlow ∧ cursor.column < indent then return (text.reverse, cursor)
        else plainFrom? indent inFlow bound text gap cursor

/-- Reads a plain text. Its further lines are indented at least to `indent`. -/
def plain? (indent : Int) (inFlow : Bool) (cursor : Cursor) : Option (List Char × Cursor) := do
  if inFlow ∧ cursor.column < indent then none
  else
    let (text, cursor) ← plainFrom? indent inFlow (cursor.rest.length + 1) [] {} cursor
    if text = [] then none else return (text, cursor)

/-! Quoted texts. -/

def escapeLetter? (c : Char) : Option Char :=
  if c = '0' then some '\x00'
  else if c = 'a' then some '\x07'
  else if c = 'b' then some '\x08'
  else if c = 't' ∨ c = '\t' then some '\t'
  else if c = 'n' then some '\n'
  else if c = 'v' then some '\x0b'
  else if c = 'f' then some '\x0c'
  else if c = 'r' then some '\r'
  else if c = 'e' then some '\x1b'
  else if c = 'N' then some '\u0085'
  else if c = '_' then some '\u00a0'
  else if c = 'L' then some '\u2028'
  else if c = 'P' then some '\u2029'
  else if c = ' ' ∨ c = '"' ∨ c = '/' ∨ c = '\\' then some c
  else none

/-- The number of digits after the letter of a numeric escape. -/
def numericEscape? (c : Char) : Option Nat :=
  if c = 'x' then some 2 else if c = 'u' then some 4 else if c = 'U' then some 8 else none

def escape? (cursor : Cursor) : Option (Char × Cursor) :=
  let c := cursor.peekSecond
  let cursor := cursor.skip 2
  match numericEscape? c with
  | some count =>
    if (cursor.rest.take count).length = count then
      (character? (cursor.rest.take count)).map fun named => (named, cursor.skip count)
    else none
  | none => (escapeLetter? c).map fun named => (named, cursor)

/-- Reads a part of a quoted text up to white space or the closing quote. Also answers whether the
part ends in an escaped line end, which reads as nothing. -/
def quotedPart? (quote : Char) : Nat → List Char → Cursor → Option (List Char × Bool × Cursor)
  | 0, _, _ => none
  | bound + 1, text, cursor =>
    let c := cursor.peek
    if isGap c then some (text, false, cursor)
    else if c = quote then
      if c = '\'' ∧ cursor.peekSecond = '\'' then
        quotedPart? quote bound ('\'' :: text) (cursor.skip 2)
      else some (text, false, cursor)
    else if c = '\\' ∧ quote = '"' then
      if isBreak cursor.peekSecond then some (text, true, (cursor.skip 1).skipBreak)
      else do
        let (named, cursor) ← escape? cursor
        quotedPart? quote bound (named :: text) cursor
    else quotedPart? quote bound (c :: text) (cursor.skip 1)

/-- Goes past white space in a quoted text. `apart` says whether a line has ended before it. -/
def quotedGap? (indent : Int) : Nat → Bool → Gap → Cursor → Option (Bool × Gap × Cursor)
  | 0, apart, gap, cursor => some (apart, gap, cursor)
  | bound + 1, apart, gap, cursor =>
    let c := cursor.peek
    if isBlank c then
      if !apart then
        quotedGap? indent bound apart { gap with blanks := c :: gap.blanks } (cursor.skipBlanks 1)
      else if c = '\t' ∧ cursor.column < indent then none
      else quotedGap? indent bound apart gap (cursor.skipBlanks 1)
    else if isBreak c then quotedGap? indent bound true (gap.break apart) cursor.skipBreak
    else some (apart, gap, cursor)

/-- Reads the rest of a quoted text, of which `text` has been read, the last character first. -/
def quotedFrom? (indent : Int) (quote : Char) : Nat → List Char → Cursor →
    Option (List Char × Cursor)
  | 0, _, _ => none
  | bound + 1, text, cursor => do
    if cursor.atDocumentStart ∨ cursor.atDocumentEnd ∨ isEnd cursor.peek ∨
        cursor.column < indent then none
    else
      let (text, apart, cursor) ← quotedPart? quote (cursor.rest.length + 1) text cursor
      if cursor.peek = quote then return (text.reverse, cursor.skip 1)
      else
        let (apart, gap, cursor) ← quotedGap? indent cursor.rest.length apart {} cursor
        quotedFrom? indent quote bound (gap.reading apart ++ text) cursor

/-- Reads a quoted text from its opening quote, and blanks and a comment behind it. On the same
line there may be nothing else but what goes on with a collection. -/
def quoted? (indent : Int) (inFlow : Bool) (cursor : Cursor) : Option (List Char × Cursor) := do
  let (text, after) ←
    quotedFrom? indent cursor.peek (cursor.rest.length + 1) [] (cursor.skip 1)
  let (_, after) ← after.skipComment?
  let c := after.peek
  if isBreakOrEnd c ∨ (inFlow ∧ (c = ',' ∨ c = '\x7d' ∨ c = ']' ∨ c = ':')) ∨
      (!inFlow ∧ c = ':' ∧ cursor.line = after.line) then
    return (text, after)
  else none

/-! Blocks of lines. -/

/-- What becomes of the line ends after the last line. -/
inductive Chomping where
  /-- None counts. -/
  | strip
  /-- One counts. -/
  | clip
  /-- All count. -/
  | keep
  deriving DecidableEq, Repr

def chomping? (c : Char) : Option Chomping :=
  if c = '+' then some .keep else if c = '-' then some .strip else none

def increment? (c : Char) : Option Nat := if c.isDigit then digitValue? c else none

/-- Reads what stands behind the mark of a block: how its end is read, and how far it is indented
if that is given. -/
def blockHeader? (cursor : Cursor) : Option (Chomping × Option Nat × Cursor) :=
  let (chomping, increment, cursor) := match chomping? cursor.peek with
    | some chomping =>
      let cursor := cursor.skip 1
      match increment? cursor.peek with
      | some increment => (chomping, some increment, cursor.skip 1)
      | none => (chomping, none, cursor)
    | none =>
      match increment? cursor.peek with
      | some increment =>
        let cursor := cursor.skip 1
        match chomping? cursor.peek with
        | some chomping => (chomping, some increment, cursor.skip 1)
        | none => (.clip, some increment, cursor)
      | none => (.clip, none, cursor)
  if increment = some 0 then none else some (chomping, increment, cursor)

/-- Goes past empty lines and the spaces before the first text. Answers the widest indentation and
the number of line ends. -/
def leadingLines : Nat → Nat → Nat → Cursor → Nat × Nat × Cursor
  | 0, widest, breaks, cursor => (widest, breaks, cursor)
  | bound + 1, widest, breaks, cursor =>
    let cursor := cursor.skipBlanks (cursor.run (· = ' ')).length
    let widest := max widest cursor.column
    if isBreak cursor.peek then leadingLines bound widest (breaks + 1) cursor.skipBreak
    else (widest, breaks, cursor)

/-- Goes past empty lines and the indentation of the next one. Answers the number of line ends. -/
def emptyLines (indent : Nat) : Nat → Nat → Cursor → Nat × Cursor
  | 0, breaks, cursor => (breaks, cursor)
  | bound + 1, breaks, cursor =>
    let spaces := (cursor.run (· = ' ')).length
    let cursor := cursor.skipBlanks (min spaces (indent - cursor.column))
    if isBreak cursor.peek then emptyLines indent bound (breaks + 1) cursor.skipBreak
    else (breaks, cursor)

/-- The lines of a block that have been read. -/
structure Lines where
  /-- The text without the line ends after the last line, the last character first. -/
  text : List Char := []
  /-- Whether the last line has ended. -/
  broken : Bool := false
  /-- The number of further line ends. -/
  breaks : Nat := 0
  /-- Whether the last line starts with a blank. -/
  blank : Bool := false

/-- Reads lines of an indentation. Unless they are literal, a line end between two lines that start
with text reads as a space. -/
def blockLines (literal : Bool) (indent : Nat) : Nat → Lines → Cursor → Lines × Cursor
  | 0, lines, cursor => (lines, cursor)
  | bound + 1, lines, cursor =>
    if cursor.column ≠ indent ∨ isEnd cursor.peek ∨ cursor.atDocumentEnd then (lines, cursor)
    else
      let blank := isBlank cursor.peek
      let further : List Char := .replicate lines.breaks '\n'
      let gap :=
        if !literal ∧ lines.broken ∧ !lines.blank ∧ !blank then
          if lines.breaks = 0 then [' '] else further
        else if lines.broken then '\n' :: further
        else further
      let line := cursor.run (!isBreakOrEnd ·)
      let cursor := cursor.skip line.length
      let text := line.reverse ++ gap ++ lines.text
      if isEnd cursor.peek then ({ text, blank }, cursor)
      else
        let (breaks, cursor) := emptyLines indent cursor.rest.length 0 cursor.skipBreak
        blockLines literal indent bound { text, broken := true, breaks, blank } cursor

/-- Reads a block of lines from its mark. `outer` is the indentation of what it stands in. -/
def block? (outer : Int) (cursor : Cursor) : Option (List Char × Cursor) := do
  let literal := cursor.peek = '|'
  let start := cursor.line
  let (chomping, increment, cursor) ← blockHeader? (cursor.skip 1)
  let (_, cursor) ← cursor.skipComment?
  if !isBreakOrEnd cursor.peek then none
  else
    let first : List Char := if isBreak cursor.peek then ['\n'] else []
    let cursor := cursor.skipBreak
    if cursor.peek = '\t' then none
    else
      let bound := cursor.rest.length
      let (indent, breaks, cursor) := match increment with
        | some increment =>
          let indent := (max outer 0).toNat + increment
          (indent, emptyLines indent bound 0 cursor)
        | none =>
          let (widest, breaks, cursor) := leadingLines bound 0 0 cursor
          (max widest (outer + 1).toNat, breaks, cursor)
      if isEnd cursor.peek then
        let text : List Char := match chomping with
          | .strip => []
          | .clip => if cursor.line = start then [] else first
          | .keep =>
            if cursor.line = start then []
            else if breaks = 0 then first
            else .replicate breaks '\n'
        return (text, cursor)
      else if cursor.column < indent ∧ outer < cursor.column then none
      else
        let (lines, cursor) := blockLines literal indent (bound + 1) { breaks } cursor
        let ending : List Char := if lines.broken then ['\n'] else []
        let final : List Char :=
          if isEnd cursor.peek ∧ max indent 1 ≤ cursor.column then ['\n'] else []
        let further : List Char := .replicate lines.breaks '\n'
        return (lines.text.reverse ++ (match chomping with
          | .strip => []
          | .clip => ending ++ final
          | .keep => ending ++ final ++ further), cursor)

end RingQueue.Yaml
