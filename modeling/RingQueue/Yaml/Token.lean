import RingQueue.Yaml.Scalar
import RingQueue.Yaml.Tag

/-! Tokens of YAML documents. Indentation becomes tokens that open and close collections. A key is
known only from the colon behind it, so its token is put in where a key could have started. -/
namespace RingQueue.Yaml

inductive Token where
  | documentStart
  | documentEnd
  | directive (directive : Directive)
  | sequenceStart
  | mappingStart
  | blockEnd
  | flowSequenceStart
  | flowSequenceEnd
  | flowMappingStart
  | flowMappingEnd
  | entry
  | flowEntry
  | key
  | value
  | anchor (name : String)
  /-- The value of an anchor. -/
  | reference (name : String)
  | tag (tag : Tag)
  | text (plain : Bool) (content : String)
  deriving DecidableEq, Repr

/-- A place where a key starts if a colon follows. -/
structure KeyPlace where
  possible : Bool := false
  /-- Whether nothing but a key can start there. -/
  required : Bool := false
  /-- The number of tokens before it. -/
  position : Nat := 0
  index : Nat := 0
  line : Nat := 0
  column : Nat := 0

/-- An indentation that is in force. -/
structure Level where
  /-- The indentation around it. -/
  outer : Int
  /-- Whether it is that of a collection, which a token closes. -/
  closes : Bool

/-- The tokens so far and what the next one depends on. -/
structure Scanner where
  cursor : Cursor
  tokens : Array Token := #[]
  keyAllowed : Bool := true
  /-- For each open flow collection, the innermost first, and for the blocks around them, where the
  latest key may start. -/
  places : List KeyPlace := [{}]
  indent : Int := -1
  levels : List Level := []
  /-- The number of open flow collections. -/
  depth : Nat := 0
  /-- Where a colon may touch both its key and its value. -/
  adjacent : Nat := 0
  /-- Whether a flow mapping has been opened since the latest single pair was closed. -/
  inMapping : Bool := false
  /-- For each open flow sequence, the innermost first, the depth of a single pair in it. -/
  pairs : List (Option Nat) := []

/-- A key has at most this many characters before its colon. -/
def longestKey : Nat := 1024

def deepestFlow : Nat := 255

namespace Scanner

def emit (token : Token) (s : Scanner) : Scanner := { s with tokens := s.tokens.push token }

def insert (position : Nat) (token : Token) (s : Scanner) : Scanner :=
  { s with
    tokens := (s.tokens.extract 0 position).push token ++
      s.tokens.extract position s.tokens.size }

/-! Indentation. -/

/-- The indentation and the levels that remain when all beyond a column are closed, and the number
of collections among those. -/
def unroll (column indent : Int) : List Level → Int × List Level × Nat
  | [] => (indent, [], 0)
  | level :: levels =>
    if indent ≤ column then (indent, level :: levels, 0)
    else
      let (indent, levels, count) := unroll column level.outer levels
      (indent, levels, if level.closes then count + 1 else count)

/-- Closes the collections that are indented beyond a column. -/
def closeBeyond (column : Int) (s : Scanner) : Scanner :=
  if s.depth ≠ 0 then s
  else
    let (indent, levels, count) := unroll column s.indent s.levels
    { s with indent, levels, tokens := s.tokens ++ Array.replicate count Token.blockEnd }

/-- The levels from the innermost collection on. -/
def toCollection (indent : Int) : List Level → Int × List Level
  | [] => (indent, [])
  | level :: levels =>
    if level.closes then (indent, level :: levels) else toCollection level.outer levels

/-- Leaves the levels that are of no collection. -/
def leaveInner (s : Scanner) : Scanner :=
  let (indent, levels) := toCollection s.indent s.levels
  { s with indent, levels }

/-- Opens a collection at a column, unless it is open already. -/
def openAt (column : Int) (position : Nat) (token : Token) (s : Scanner) : Scanner :=
  if s.depth ≠ 0 then s
  else
    let s := match s.levels with
      | level :: levels =>
        if s.indent ≤ column ∧ !level.closes then { s with indent := level.outer, levels } else s
      | [] => s
    if s.indent < column then
      ({ s with indent := column, levels := ⟨s.indent, true⟩ :: s.levels }).insert position token
    else s

/-- Whether the innermost level is that of a collection. -/
def atCollection (s : Scanner) : Bool := (s.levels.head?.map Level.closes).getD false

/-- Indents what follows by one column. -/
def indentInner (s : Scanner) : Scanner :=
  if s.depth = 0 ∧ s.atCollection then
    { s with indent := s.indent + 1, levels := ⟨s.indent, false⟩ :: s.levels }
  else s

/-! Keys. -/

/-- Notes that a key may start here. -/
def mayStartKey (s : Scanner) : Scanner :=
  if s.keyAllowed then
    let required := s.depth = 0 && s.indent = s.cursor.column && s.atCollection
    let place :=
      ⟨true, required, s.tokens.size, s.cursor.index, s.cursor.line, s.cursor.column⟩
    { s with places := place :: s.places.drop 1 }
  else s

/-- Notes that the latest place is that of no key. -/
def dropKey? (s : Scanner) : Option Scanner :=
  match s.places with
  | place :: places =>
    if place.possible ∧ place.required then none
    else some { s with places := { place with possible := false } :: places }
  | [] => some s

/-- Gives up a place that is too far away. A key outside of flow collections is on one line. -/
def dropFarKey? (s : Scanner) : Option Scanner :=
  match s.places with
  | place :: _ =>
    if s.depth = 0 ∧ place.possible ∧
        (place.line < s.cursor.line ∨ place.index + longestKey < s.cursor.index) then s.dropKey?
    else some s
  | [] => some s

/-! Tokens. -/

/-- Goes past white space and comments. Tabs do not indent anything. -/
def toNext? : Nat → Scanner → Option Scanner
  | 0, s => some s
  | bound + 1, s =>
    let c := s.cursor.peek
    if c = '\t' ∧ !s.levels.isEmpty ∧ s.cursor.fresh ∧ s.cursor.column < s.indent then do
      let (_, cursor) ← s.cursor.skipComment?
      if isBreakOrEnd cursor.peek then toNext? bound { s with cursor } else none
    else if isBlank c then toNext? bound { s with cursor := s.cursor.skipBlanks 1 }
    else if isBreak c then
      toNext? bound
        { s with cursor := s.cursor.skipBreak, keyAllowed := s.keyAllowed || s.depth = 0 }
    else if c = '#' then toNext? bound { s with cursor := s.cursor.skipLine }
    else some s

/-- Goes past a number of characters, and blanks and a comment behind them. -/
def skipMark? (count : Nat) (s : Scanner) : Option (List Char × Scanner) := do
  let (blanks, cursor) ← (s.cursor.skip count).skipComment?
  return (blanks, { s with cursor })

def flowStart? (mapping : Bool) (s : Scanner) : Option Scanner := do
  let s := s.mayStartKey.indentInner
  if s.depth = deepestFlow then none
  else
    let (_, s) ← s.skipMark? 1
    let s := { s with places := {} :: s.places, depth := s.depth + 1, keyAllowed := true }
    if mapping then return ({ s with inMapping := true }).emit .flowMappingStart
    else return ({ s with pairs := none :: s.pairs }).emit .flowSequenceStart

/-- Closes a single pair of the innermost sequence. -/
def endPair (depth : Nat) (s : Scanner) : Scanner :=
  match s.pairs with
  | some inner :: pairs =>
    if inner = depth then
      ({ s with inMapping := false, pairs := none :: pairs }).emit .flowMappingEnd
    else s
  | _ => s

def flowEnd? (mapping : Bool) (s : Scanner) : Option Scanner := do
  let depth := s.depth
  let s ← s.dropKey?
  let s := if depth = 0 then s else { s with depth := depth - 1, places := s.places.drop 1 }
  let s := { s with keyAllowed := false }
  let s :=
    if mapping then s
    else
      let s := s.endPair depth
      { s with pairs := s.pairs.drop 1 }
  let (_, s) ← s.skipMark? 1
  let s := if s.depth = 0 then s else { s with adjacent := s.cursor.index }
  return s.emit (if mapping then .flowMappingEnd else .flowSequenceEnd)

def flowEntry? (s : Scanner) : Option Scanner := do
  let s ← s.dropKey?
  let s := ({ s with keyAllowed := true }).endPair s.depth
  let (_, s) ← s.skipMark? 1
  return s.emit .flowEntry

def entry? (s : Scanner) : Option Scanner := do
  if s.depth ≠ 0 ∨ !s.keyAllowed then none
  else
    let s := s.openAt s.cursor.column s.tokens.size .sequenceStart
    let (blanks, s) ← s.skipMark? 1
    if '\t' ∈ blanks ∧ s.cursor.peek = '-' ∧ isGap s.cursor.peekSecond then none
    else
      let c := s.cursor.peek
      let s := if isBreak c ∨ isFlowMark c then s.indentInner else s
      let s ← s.dropKey?
      return ({ s with keyAllowed := true }).emit .entry

def skipSpace : Nat → Scanner → Scanner
  | 0, s => s
  | bound + 1, s =>
    let c := s.cursor.peek
    if c = ' ' then skipSpace bound { s with cursor := s.cursor.skipBlanks 1 }
    else if isBreak c then
      skipSpace bound
        { s with cursor := s.cursor.skipBreak, keyAllowed := s.keyAllowed || s.depth = 0 }
    else if c = '#' then skipSpace bound { s with cursor := s.cursor.skipLine }
    else s

/-- A key that has a mark. -/
def key? (s : Scanner) : Option Scanner := do
  let s ←
    if s.depth ≠ 0 then some { s with inMapping := true }
    else if s.keyAllowed then some (s.openAt s.cursor.column s.tokens.size .mappingStart)
    else none
  let s ← s.dropKey?
  let s := { s with keyAllowed := s.depth = 0, cursor := s.cursor.skip 1 }
  let c := s.cursor.peek
  if c ≠ ' ' ∧ !isBreak c then none
  else
    let s := s.skipSpace s.cursor.rest.length
    if s.cursor.peek = '\t' then none else return s.emit .key

/-- The colon behind a key that starts at a place. In a sequence it makes a single pair. -/
def keyed? (place : KeyPlace) (single : Bool) (line : Nat) (s : Scanner) : Option Scanner :=
  if single ∧ place.line < line then none
  else
    let s := s.insert place.position .key
    let s := if single then s.insert place.position .flowMappingStart else s
    let s := (s.openAt place.column place.position .mappingStart).indentInner
    let done := { place with possible := false }
    some { s with places := done :: s.places.drop 1, keyAllowed := false }

/-- A colon without a key before it. -/
def unkeyed? (single : Bool) (column : Nat) (s : Scanner) : Option Scanner :=
  let s := if single then s.emit .flowMappingStart else s
  if s.depth ≠ 0 then some { s with keyAllowed := false }
  else if s.keyAllowed then
    some { (s.openAt column s.tokens.size .mappingStart).indentInner with keyAllowed := true }
  else none

/-- The colon before a value. Behind one there has to be a space if a tab and a word come. -/
def value? (s : Scanner) : Option Scanner := do
  let start := s.cursor
  let single := !s.pairs.isEmpty && !s.inMapping
  let s := if single then { s with pairs := some s.depth :: s.pairs.drop 1 } else s
  let s := { s with cursor := s.cursor.skip 1 }
  let s ←
    if s.cursor.peek = '\t' then do
      let (blanks, cursor) ← s.cursor.skipComment?
      if ' ' ∉ blanks ∧ isWordChar cursor.peek then none else some { s with cursor }
    else some s
  let place := s.places.headD {}
  let s ←
    if place.possible then s.keyed? place single start.line else s.unkeyed? single start.column
  return s.emit .value

/-- The name of an anchor, or one that refers to it. -/
def anchor? (token : String → Token) (s : Scanner) : Option Scanner :=
  let s := { s.mayStartKey with keyAllowed := false, cursor := s.cursor.skip 1 }
  let name := s.cursor.run fun c => !isGap c && !isFlowMark c && c ≠ '\ufeff'
  if name = [] then none
  else some (({ s with cursor := s.cursor.skip name.length }).emit (token (.ofList name)))

def tagged? (s : Scanner) : Option Scanner := do
  let s := { s.mayStartKey with keyAllowed := false }
  let (tag, cursor) ← tag? (s.depth ≠ 0) s.cursor
  return ({ s with cursor }).emit (.tag tag)

def plainText? (s : Scanner) : Option Scanner := do
  let s := ({ s.mayStartKey with keyAllowed := false }).leaveInner
  let (content, cursor) ← plain? (s.indent + 1) (s.depth ≠ 0) s.cursor
  return ({ s with cursor, keyAllowed := cursor.fresh }).emit (.text true (.ofList content))

def quotedText? (s : Scanner) : Option Scanner := do
  let s := { s.mayStartKey with keyAllowed := false }
  let (content, cursor) ← quoted? s.indent (s.depth ≠ 0) s.cursor
  let s ← ({ s with cursor }).toNext? (cursor.rest.length + 1)
  return ({ s with adjacent := s.cursor.index }).emit (.text false (.ofList content))

def blockText? (s : Scanner) : Option Scanner := do
  let s := ({ s.mayStartKey with keyAllowed := true }).leaveInner
  let (content, cursor) ← block? s.indent s.cursor
  return ({ s with cursor }).emit (.text false (.ofList content))

/-- Closes all blocks before what belongs to no document. -/
def leaveDocument? (s : Scanner) : Option Scanner :=
  ((s.closeBeyond (-1)).dropKey?).map fun s => { s with keyAllowed := false }

def directive? (s : Scanner) : Option Scanner := do
  let s ← s.leaveDocument?
  let (directive, cursor) ← Yaml.directive? s.cursor
  return ({ s with cursor }).emit (.directive directive)

def documentStart? (s : Scanner) : Option Scanner := do
  let s ← s.leaveDocument?
  return ({ s with cursor := s.cursor.skip 3 }).emit .documentStart

def documentEnd? (s : Scanner) : Option Scanner := do
  let s ← s.leaveDocument?
  let (_, s) ← (s.emit .documentEnd).skipMark? 3
  if isBreakOrEnd s.cursor.peek then return s else none

def token? (s : Scanner) : Option Scanner :=
  let c := s.cursor.peek
  let next := s.cursor.peekSecond
  if s.cursor.column = 0 ∧ c = '%' then s.directive?
  else if s.cursor.atDocumentStart then s.documentStart?
  else if s.cursor.atDocumentEnd then s.documentEnd?
  else if s.cursor.column < s.indent then none
  else if c = '[' then s.flowStart? false
  else if c = '\x7b' then s.flowStart? true
  else if c = ']' then s.flowEnd? false
  else if c = '\x7d' then s.flowEnd? true
  else if c = ',' then s.flowEntry?
  else if c = '-' ∧ isGap next then s.entry?
  else if c = '?' ∧ isGap next then s.key?
  else if c = ':' ∧ (isGap next ∨
      (s.depth ≠ 0 ∧ (isFlowMark next ∨ s.cursor.index = s.adjacent))) then s.value?
  else if c = '*' then s.anchor? .reference
  else if c = '&' then s.anchor? .anchor
  else if c = '!' then s.tagged?
  else if (c = '|' ∨ c = '>') ∧ s.depth = 0 then s.blockText?
  else if c = '\'' ∨ c = '"' then s.quotedText?
  else if c = '%' ∨ c = '@' ∨ c.toNat = 0x60 then none
  else s.plainText?

def run? : Nat → Scanner → Option Scanner
  | 0, _ => none
  | bound + 1, s => do
    let s ← s.toNext? (s.cursor.rest.length + 1)
    let s ← s.dropFarKey?
    let s := s.closeBeyond s.cursor.column
    if isEnd s.cursor.peek then
      if s.places.any fun place => place.required && place.possible then none
      else return s.closeBeyond (-1)
    else run? bound (← s.token?)

end Scanner

def tokens? (document : String) : Option (List Token) :=
  let text := document.toList.takeWhile (!isEnd ·)
  let start : Scanner := { cursor := { rest := text } }
  (start.run? (text.length + 1)).map fun s => s.tokens.toList

end RingQueue.Yaml
