import RingQueue.Number.Digits
import RingQueue.Pattern.Basic
import RingQueue.Text.Alphanumeric
import RingQueue.Text.Blank

/-! Reading patterns. A pattern stands in braces among directives, so it never holds a closing
brace, and nothing that is written with braces can be read. Classes of characters by property are
not known. Each step uses up a character or goes one level deeper, which bounds the steps. -/
namespace RingQueue.Pattern

open RingQueue.Number

def skipFrom (inComment : Bool) : List Char → List Char
  | [] => []
  | c :: rest =>
    if inComment then skipFrom (c ≠ '\n') rest
    else if Text.isBlank c then skipFrom false rest
    else if c = '#' then skipFrom true rest
    else c :: rest

/-- Goes past what does not count. -/
def skip (verbose : Bool) (text : List Char) : List Char :=
  if verbose then skipFrom false text else text

/-- The character that counts after the next one. Only the mark of a comment is passed over. -/
def ahead? (verbose : Bool) (text : List Char) : Option Char :=
  if verbose then
    match text.dropWhile Text.isBlank with
    | '#' :: rest => (rest.dropWhile Text.isBlank).head?
    | rest => rest.head?
  else text.head?

def isMeta (c : Char) : Bool := "\\.+*?()|[]\x7b\x7d^$#&-~".toList.contains c

/-- Whether a backslash may stand before a character that has no meaning of its own. -/
def canEscape (c : Char) : Bool :=
  isMeta c || (c.toNat < 128 && !c.isAlphanum && c ≠ '<' && c ≠ '>')

def letterEscape? (c : Char) : Option Char :=
  if c = 'a' then some '\x07'
  else if c = 'f' then some '\x0c'
  else if c = 't' then some '\t'
  else if c = 'n' then some '\n'
  else if c = 'r' then some '\r'
  else if c = 'v' then some '\x0b'
  else none

/-- The count of digits after a letter that announces some. -/
def digitCount? (c : Char) : Option Nat :=
  if c = 'x' then some 2 else if c = 'u' then some 4 else if c = 'U' then some 8 else none

def hexDigits? (verbose : Bool) : Nat → List Char → Option (List Char × List Char)
  | 0, text => some ([], text)
  | count + 1, text =>
    match skip verbose text with
    | c :: rest =>
      if isDigit 16 c then
        (hexDigits? verbose count rest).map fun (figures, rest) => (c :: figures, rest)
      else none
    | [] => none

def escape? (verbose : Bool) : List Char → Option (Pattern × List Char)
  | [] => none
  | c :: rest =>
    match digitCount? c with
    | some count => do
      let (figures, rest) ← hexDigits? verbose count rest
      let named ← character? figures
      return (literal ⟨named, c = 'x'⟩, skip verbose rest)
    | none =>
      if c = 'd' ∨ c = 's' ∨ c = 'w' then some (shorthand false, rest)
      else if c = 'D' ∨ c = 'S' ∨ c = 'W' then some (shorthand true, rest)
      else if canEscape c then some (literal ⟨c, false⟩, rest)
      else if c = 'A' ∨ c = 'z' then some (edge, rest)
      else if c = 'b' ∨ c = 'B' ∨ c = '<' ∨ c = '>' then some (wordEdge, rest)
      else (letterEscape? c).map fun named => (literal ⟨named, false⟩, rest)

/-! Sets of characters. -/

def setNames : List String :=
  ["alnum", "alpha", "ascii", "blank", "cntrl", "digit", "graph", "lower", "print", "punct",
    "space", "upper", "word", "xdigit"]

/-- Reads a set by its name, after its bracket. Anything else is not an error but another set. -/
def named? : List Char → Option (Member × List Char)
  | ':' :: rest =>
    let (negated, rest) := match rest with
      | '^' :: rest => (true, rest)
      | _ => (false, rest)
    let name := rest.takeWhile (· ≠ ':')
    match rest.dropWhile (· ≠ ':') with
    | ':' :: ']' :: rest =>
      if .ofList name ∈ setNames then some (.named negated, rest) else none
    | _ => none
  | _ => none

/-- Reads a character of a set or what a backslash stands for. -/
def memberAtom? (verbose : Bool) : List Char → Option (Pattern × List Char)
  | [] => none
  | '\\' :: rest => escape? verbose rest
  | c :: rest => some (.literal ⟨c, false⟩, rest)

def asMember? : Pattern → Option Member
  | .literal sign => some (.literal sign)
  | .shorthand negated => some (.shorthand negated)
  | _ => none

/-- Reads a character, a range or a shorthand. A minus before another or before the closing bracket
makes no range. -/
def range? (verbose : Bool) (text : List Char) : Option (Member × List Char) := do
  let (first, rest) ← memberAtom? verbose text
  match skip verbose rest with
  | [] => none
  | c :: rest =>
    let next := ahead? verbose rest
    if c ≠ '-' ∨ next = some ']' ∨ next = some '-' then
      return (← asMember? first, c :: rest)
    else
      let (last, rest) ← memberAtom? verbose (skip verbose rest)
      match first, last with
      | .literal first, .literal last =>
        if first.char ≤ last.char then return (.range first last, rest) else none
      | _, _ => none

def minuses (verbose : Bool) : Nat → List Char → List Member × List Char
  | 0, text => ([], text)
  | bound + 1, text =>
    match text with
    | '-' :: rest =>
      let (items, rest) := minuses verbose bound (skip verbose rest)
      (.literal ⟨'-', false⟩ :: items, rest)
    | _ => ([], text)

/-- Reads the start of a set after its bracket: whether it is negated, and the members that would
mean something else later on. -/
def setStart (verbose : Bool) (text : List Char) : Bool × List Member × List Char :=
  let text := skip verbose text
  let (negated, text) := match text with
    | '^' :: rest => (true, skip verbose rest)
    | _ => (false, text)
  let (items, text) := minuses verbose text.length text
  match items, text with
  | [], ']' :: rest => (negated, [.literal ⟨']', false⟩], skip verbose rest)
  | _, _ => (negated, items, text)

mutual

def set? (verbose : Bool) : Nat → List Char → Option ((Bool × List (List Member)) × List Char)
  | 0, _ => none
  | bound + 1, text => do
    let (negated, items, rest) := setStart verbose text
    let (parts, rest) ← members? verbose bound [] items.reverse rest
    return ((negated, parts), rest)

/-- Reads members up to the closing bracket. `parts` are those before the last operator and `items`
those after it, each with the latest first. -/
def members? (verbose : Bool) : Nat → List (List Member) → List Member → List Char →
    Option (List (List Member) × List Char)
  | 0, _, _, _ => none
  | bound + 1, parts, items, text =>
    match skip verbose text with
    | [] => none
    | ']' :: rest => some ((items.reverse :: parts).reverse, rest)
    | '&' :: '&' :: rest => members? verbose bound (items.reverse :: parts) [] rest
    | '-' :: '-' :: rest => members? verbose bound (items.reverse :: parts) [] rest
    | '~' :: '~' :: rest => members? verbose bound (items.reverse :: parts) [] rest
    | '[' :: rest =>
      match named? rest with
      | some (item, rest) => members? verbose bound parts (item :: items) rest
      | none => do
        let ((negated, inner), rest) ← set? verbose bound rest
        members? verbose bound parts (.set negated inner :: items) rest
    | c :: rest => do
      let (item, rest) ← range? verbose (c :: rest)
      members? verbose bound parts (item :: items) rest

end

/-! Groups. -/

/-- Reads flags up to a colon or a closing bracket. Answers which of the two it was. -/
def flags? (negated : Bool) (found : FlagList) : List Char →
    Option (FlagList × Char × List Char)
  | [] => none
  | c :: rest =>
    if c = ':' ∨ c = ')' then some (found.reverse, c, rest)
    else if c = '-' then
      match rest.head? with
      | some next =>
        if negated ∨ next = ':' ∨ next = ')' then none else flags? true found rest
      | none => none
    else
      match Flag.ofLetter? c with
      | some flag =>
        if (found.lookup flag).isSome then none else flags? negated ((flag, !negated) :: found) rest
      | none => none

def canStartName (c : Char) : Bool := c = '_' || Text.isLetter c

def canContinueName (c : Char) : Bool :=
  c = '_' || c = '.' || c = '[' || c = ']' || Text.isAlphanumeric c

/-- Reads the name of a group and the mark after it. -/
def groupName? (text : List Char) : Option (List Char × List Char) :=
  let name := text.takeWhile (· ≠ '>')
  match name, text.dropWhile (· ≠ '>') with
  | c :: others, _ :: rest =>
    if canStartName c && others.all canContinueName then some (name, rest) else none
  | _, _ => none

/-- What is known while reading. -/
structure Mode where
  /-- Whether blanks and comments do not count. -/
  verbose : Bool := false
  /-- The names of groups so far. -/
  names : List (List Char) := []

def Mode.apply (mode : Mode) (flags : FlagList) : Mode :=
  { mode with verbose := (flags.get? .verbose).getD mode.verbose }

/-- What an opening bracket begins. -/
inductive Opening where
  /-- Flags for what follows. There is no group. -/
  | flags (flags : FlagList)
  | group (name : Option (List Char)) (flags : FlagList)

/-- Reads what follows an opening bracket. A group cannot look around. -/
def opening? : List Char → Option (Opening × List Char)
  | '?' :: '!' :: _ => none
  | '?' :: '<' :: '!' :: _ => none
  | '?' :: 'P' :: '<' :: rest =>
    (groupName? rest).map fun (name, rest) => (.group (some name) [], rest)
  | '?' :: '<' :: rest => (groupName? rest).map fun (name, rest) => (.group (some name) [], rest)
  | '?' :: rest =>
    match flags? false [] rest with
    | some (found, ':', rest) => some (.group none found, rest)
    | some (found, _, rest) => if found = [] then none else some (.flags found, rest)
    | none => none
  | text => some (.group none [], text)

def canRepeat : Pattern → Bool
  | .empty | .flags _ => false
  | _ => true

mutual

/-- Reads parts in a row, up to a bar, a closing bracket or the end. `parts` has the latest
first. -/
def sequence? : Nat → Mode → List Pattern → List Char →
    Option (Pattern × Mode × List Char)
  | 0, _, _, _ => none
  | bound + 1, mode, parts, text =>
    match skip mode.verbose text with
    | [] => some (ofSequence parts.reverse, mode, [])
    | c :: rest =>
      if c = '|' ∨ c = ')' then some (ofSequence parts.reverse, mode, c :: rest)
      else if c = '(' then
        match opening? (skip mode.verbose rest) with
        | none => none
        | some (.flags found, rest) =>
          sequence? bound (mode.apply found) (.flags found :: parts) rest
        | some (.group name found, rest) =>
          if (name.map mode.names.contains).getD false then none
          else do
            let inner := { mode.apply found with names := name.toList ++ mode.names }
            let (body, inner, rest) ← choice? bound inner [] rest
            match rest with
            | ')' :: rest =>
              sequence? bound { mode with names := inner.names } (.group found body :: parts) rest
            | _ => none
      else if c = '[' then do
        let ((negated, members), rest) ← set? mode.verbose (2 * rest.length + 2) rest
        sequence? bound mode (.set negated members :: parts) rest
      else if c = '?' ∨ c = '*' ∨ c = '+' then
        match parts with
        | part :: parts =>
          if canRepeat part then
            let rest := match rest with
              | '?' :: rest => rest
              | _ => rest
            sequence? bound mode (.repeated part :: parts) rest
          else none
        | [] => none
      else if c = '\x7b' then none
      else if c = '\\' then do
        let (part, rest) ← escape? mode.verbose rest
        sequence? bound mode (part :: parts) rest
      else if c = '.' then sequence? bound mode (.any :: parts) rest
      else if c = '^' ∨ c = '$' then sequence? bound mode (.edge :: parts) rest
      else sequence? bound mode (.literal ⟨c, false⟩ :: parts) rest

/-- Reads sequences between bars, up to a closing bracket or the end. `parts` has the latest
first. -/
def choice? : Nat → Mode → List Pattern → List Char → Option (Pattern × Mode × List Char)
  | 0, _, _, _ => none
  | bound + 1, mode, parts, text => do
    let (part, mode, rest) ← sequence? bound mode [] text
    match rest with
    | '|' :: rest => choice? bound mode (part :: parts) rest
    | rest => return (ofChoice (part :: parts).reverse, mode, rest)

end

def depthLimit : Nat := 250

def parse? (text : List Char) : Option Pattern := do
  let (pattern, _, rest) ← choice? (3 * text.length + 3) {} [] text
  if rest = [] ∧ pattern.depth ≤ depthLimit then return pattern else none

end RingQueue.Pattern
