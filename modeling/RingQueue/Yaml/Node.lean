import RingQueue.Datum
import RingQueue.Number.Reading
import RingQueue.Yaml.Token

/-! Nodes of YAML documents, and how they are put together from tokens. -/
namespace RingQueue.Yaml

open RingQueue.Number

inductive Scalar where
  | bool (value : Bool)
  | whole (value : Int)
  /-- A number as it is written. -/
  | real (text : String)
  | text (value : String)
  deriving DecidableEq, Repr

inductive Node where
  /-- What does not fit its tag, or refers to what it is part of. -/
  | misfit
  | nil
  | scalar (value : Scalar)
  | list (items : List Node)
  | table (entries : List (Scalar × Node))
  deriving Repr, Inhabited

/-! Scalars. -/

def numberWords : List String :=
  [".inf", ".Inf", ".INF", "+.inf", "+.Inf", "+.INF", "-.inf", "-.Inf", "-.INF", ".nan", ".NaN",
    ".NAN"]

def isReal (content : String) : Bool :=
  numberWords.contains content ||
    (content.toList.any Char.isDigit && (Binary64.parse? content.toList).isSome)

def whole? (text : List Char) : Option Int :=
  let marked := match text with
    | '0' :: 'x' :: rest => signedIn? 16 rest
    | '0' :: 'o' :: rest => signedIn? 8 rest
    | '+' :: rest => signed? rest
    | _ => none
  marked <|> signed? text

def ofPlain (content : String) : Node :=
  match whole? content.toList with
  | some n => .scalar (.whole n)
  | none =>
    if content = "" ∨ content = "~" ∨ content = "null" then .nil
    else if content = "true" then .scalar (.bool true)
    else if content = "false" then .scalar (.bool false)
    else if isReal content then .scalar (.real content)
    else .scalar (.text content)

def generalHandle : String := "tag:yaml.org,2002:"

def ofTagged (tag : Tag) (content : String) : Node :=
  if tag.handle ≠ generalHandle then .scalar (.text content)
  else match tag.suffix with
    | "bool" =>
      if content = "true" then .scalar (.bool true)
      else if content = "false" then .scalar (.bool false)
      else .misfit
    | "int" =>
      match signed? content.toList with
      | some n => .scalar (.whole n)
      | none => .misfit
    | "float" => if isReal content then .scalar (.real content) else .misfit
    | "null" => if content = "~" ∨ content = "null" then .nil else .misfit
    | _ => .scalar (.text content)

def ofText (plain : Bool) (tag : Option Tag) (content : String) : Node :=
  if !plain then .scalar (.text content)
  else match tag with
    | some tag => ofTagged tag content
    | none => ofPlain content

/-- The table of keys and values that come in turn, of which `key` waits for its value. A misfit is
no key, so what follows it is taken for one. No key may come twice. -/
def entriesOf? (entries : List (Scalar × Node)) (key : Option Node) :
    List Node → Option (List (Scalar × Node))
  | [] => some entries
  | node :: nodes =>
    match key, node with
    | none, .misfit => entriesOf? entries none nodes
    | none, node => entriesOf? entries (some node) nodes
    | some (.scalar key), value =>
      if entries.any (·.1 = key) then none else entriesOf? (entries ++ [(key, value)]) none nodes
    | some _, _ => none

/-! Nodes. -/

/-- The tokens that are left, and what the ones before have set. -/
structure Progress where
  tokens : List Token
  /-- What the handles of the document stand for. -/
  handles : List (String × String) := []
  /-- The numbers of the anchors of the document, the latest first. -/
  anchors : List (String × Nat) := []
  /-- The nodes of anchors by their numbers. -/
  nodes : List (Nat × Node) := []
  /-- The number of anchors so far. -/
  count : Nat := 0

/-- A step of reading. -/
abbrev Read := StateT Progress Option

def next : Read (Option Token) := return (← get).tokens.head?

def advance : Read Unit := modify fun progress => { progress with tokens := progress.tokens.drop 1 }

/-- The tag with its handle replaced by what that stands for. -/
def resolved? (handles : List (String × String)) (tag : Tag) : Option Tag :=
  match handles.lookup tag.handle with
  | some expansion => some { tag with handle := expansion }
  | none =>
    let name := tag.handle.toList
    if name = ['!', '!'] then some { tag with handle := generalHandle }
    else if 2 ≤ name.length ∧ name.getLast? = some '!' then none
    else some tag

def anchor? : Read (Option Nat) := do
  match ← next with
  | some (.anchor name) =>
    advance
    let number := (← get).count + 1
    modify fun progress =>
      { progress with anchors := (name, number) :: progress.anchors, count := number }
    return some number
  | _ => return none

def tagged? : Read (Option Tag) := do
  match ← next with
  | some (.tag tag) =>
    advance
    return some (← resolved? (← get).handles tag)
  | _ => return none

/-- The anchor and the tag in front of a node, in either order. -/
def properties : Read (Option Nat × Option Tag) := do
  match ← anchor? with
  | some number => return (some number, ← tagged?)
  | none =>
    match ← tagged? with
    | some tag => return (← anchor?, some tag)
    | none => return (none, none)

/-- The node that a name refers to. -/
def referred (name : String) : Read Node := do
  let progress ← get
  let number ← progress.anchors.lookup name
  return (progress.nodes.lookup number).getD .misfit

/-- Keeps the node of an anchor. -/
def keep (anchor : Option Nat) (node : Node) : Read Node := do
  match anchor with
  | some number =>
    modify fun progress => { progress with nodes := (number, node) :: progress.nodes }
  | none => pure ()
  return node

/-- Whether no node starts with a token, within a collection that the others delimit. -/
def isMissing (delimiters : List Token) (token : Option Token) : Bool :=
  match token with
  | some token => delimiters.contains token
  | none => false

def expect (token : Token) : Read Unit := do
  if (← next) = some token then advance else failure

mutual

/-- Reads a node. `block` says whether it may be a block, and `flat` whether it may be a sequence
that is not indented. -/
def node : Nat → Bool → Bool → Read Node
  | 0, _, _ => failure
  | bound + 1, block, flat => do
    match ← next with
    | some (.reference name) =>
      advance
      referred name
    | _ =>
      let (anchor, tag) ← properties
      let found ← next
      let content ←
        match found with
        | some (.text plain content) => do
          advance
          pure (ofText plain tag content)
        | some .flowSequenceStart => do
          advance
          return ← keep anchor (.list (← flowItems bound true))
        | some .flowMappingStart => do
          advance
          return ← keep anchor (.table (← entriesOf? [] none (← flowEntries bound true)))
        | _ =>
          if found = some .entry ∧ flat then
            return ← keep anchor (.list (← flatItems bound))
          else if found = some .sequenceStart ∧ block then do
            advance
            return ← keep anchor (.list (← items bound))
          else if found = some .mappingStart ∧ block then do
            advance
            return ← keep anchor (.table (← entriesOf? [] none (← entries bound)))
          else if anchor.isSome ∨ tag.isSome then pure (ofText true tag "")
          else failure
      keep anchor content

/-- Reads the items of a sequence that is not indented. -/
def flatItems : Nat → Read (List Node)
  | 0 => failure
  | bound + 1 => do
    if (← next) ≠ some .entry then return []
    else
      advance
      let item ←
        if isMissing [.entry, .key, .value, .blockEnd] (← next) then pure .nil
        else node bound true false
      return item :: (← flatItems bound)

def items : Nat → Read (List Node)
  | 0 => failure
  | bound + 1 => do
    if (← next) = some .blockEnd then
      advance
      return []
    else
      expect .entry
      let item ←
        if isMissing [.entry, .blockEnd] (← next) then pure .nil else node bound true false
      return item :: (← items bound)

/-- Reads a key or a value in a block. -/
def part : Nat → Read Node
  | 0 => failure
  | bound + 1 => do
    if isMissing [.key, .value, .blockEnd] (← next) then return .nil else node bound true true

/-- Reads the keys and the values of a mapping in a block, in turn. -/
def entries : Nat → Read (List Node)
  | 0 => failure
  | bound + 1 => do
    let found ← next
    if found = some .blockEnd then
      advance
      return []
    else
      let key ←
        if found = some .key then do
          advance
          part bound
        else if found = some .value then pure .nil
        else failure
      let value ←
        if (← next) = some .value then do
          advance
          part bound
        else pure .nil
      return key :: value :: (← entries bound)

def flowItems : Nat → Bool → Read (List Node)
  | 0, _ => failure
  | bound + 1, first => do
    if !first ∧ (← next) ≠ some .flowSequenceEnd then expect .flowEntry
    match ← next with
    | some .flowSequenceEnd =>
      advance
      return []
    | some .key =>
      advance
      let key ←
        if isMissing [.value, .flowEntry, .flowSequenceEnd] (← next) then do
          advance
          pure .nil
        else node bound false false
      let value ←
        if (← next) ≠ some .value then pure .nil
        else do
          advance
          if isMissing [.flowEntry, .flowSequenceEnd] (← next) then pure .nil
          else node bound false false
      let pair ← entriesOf? [] none [key, value]
      return .table pair :: (← flowItems bound false)
    | _ =>
      let item ← node bound false false
      return item :: (← flowItems bound false)

/-- Reads the keys and the values of a flow mapping, in turn. -/
def flowEntries : Nat → Bool → Read (List Node)
  | 0, _ => failure
  | bound + 1, first => do
    if !first ∧ (← next) ≠ some .flowMappingEnd then expect .flowEntry
    let found ← next
    if found = some .flowMappingEnd then
      advance
      return []
    else
      let marked := found = some .key ∨ found = some .value
      let key ←
        if found = some .key then do
          advance
          if isMissing [.value, .flowEntry, .flowMappingEnd] (← next) then pure .nil
          else node bound false false
        else if found = some .value then pure .nil
        else node bound false false
      let value ←
        if !marked ∨ (← next) ≠ some .value then pure .nil
        else do
          advance
          if isMissing [.flowEntry, .flowMappingEnd] (← next) then pure .nil
          else node bound false false
      return key :: value :: (← flowEntries bound false)

end

/-! Documents. -/

/-- Goes past the directives of a document. Only the last one counts. -/
def directives : Nat → Bool → Read Unit
  | 0, _ => pure ()
  | bound + 1, versionGiven => do
    match ← next with
    | some (.directive .version) =>
      if versionGiven then failure
      modify fun progress => { progress with handles := [] }
      advance
      directives bound true
    | some (.directive (.handle name expansion)) =>
      modify fun progress => { progress with handles := [(name, expansion)] }
      advance
      directives bound versionGiven
    | _ => pure ()

def isDirective : Option Token → Bool
  | some (.directive _) => true
  | _ => false

/-- Reads the documents that are left. Unless the one before has been ended, a document needs the
mark of its start. -/
def documents : Nat → Bool → Read (List Node)
  | 0, _ => failure
  | bound + 1, ended => do
    modify fun progress =>
      { progress with tokens := progress.tokens.dropWhile (· = .documentEnd) }
    let first ← next
    if first = none then return []
    else
      let bare := ended && !isDirective first && first ≠ some .documentStart
      if !bare then
        directives (← get).tokens.length false
        expect .documentStart
      let found ← next
      let depth := 4 * (← get).tokens.length + 4
      let root ←
        if !bare && (found = none || found = some .documentStart || found = some .documentEnd ||
            isDirective found) then pure .nil
        else node depth true false
      let ended := (← next) = some .documentEnd
      if ended then advance
      else if isDirective (← next) then failure
      modify fun progress => { progress with handles := [], anchors := [] }
      return root :: (← documents bound ended)

/-- The roots of the documents that tokens make up. -/
def ofTokens? (tokens : List Token) : Option (List Node) :=
  (documents (tokens.length + 1) true).run' { tokens }

end RingQueue.Yaml
