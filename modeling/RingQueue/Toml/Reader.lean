import RingQueue.Toml.Quoted
import RingQueue.Toml.Scalar
import RingQueue.Toml.Tree

/-! Reading documents. Of any two steps of a reader at least one uses up a character, so twice the
length of the text bounds the steps. -/
namespace RingQueue.Toml

/-- The deepest nesting of values, and the most tables on the way to a key. -/
def depthLimit : Nat := 80

def simpleKey? (text : List Char) : Option (String × List Char) :=
  match text with
  | '"' :: rest => (basic? rest.length rest).map fun (key, rest) => (.ofList key, rest)
  | '\'' :: rest => (literal? rest).map fun (key, rest) => (.ofList key, rest)
  | _ =>
    let key := text.takeWhile isBareKeyChar
    if key = [] then none else some (.ofList key, text.dropWhile isBareKeyChar)

/-- Reads a key of parts between points. The answer holds all parts but the last, and the last. -/
def key? : Nat → List Char → Option ((List String × String) × List Char)
  | 0, _ => none
  | bound + 1, text => do
    let (part, rest) ← simpleKey? (skipBlanks text)
    match skipBlanks rest with
    | '.' :: rest =>
      let ((path, key), rest) ← key? bound rest
      return ((part :: path, key), rest)
    | rest => return (([], part), rest)

def boundedKey? (text : List Char) : Option ((List String × String) × List Char) :=
  (key? (text.length + 1) text).filter fun ((path, _), _) => path.length < depthLimit

mutual

/-- Reads a value. `depth` is the nesting still allowed. -/
def value? : Nat → Nat → List Char → Option (Datum × List Char)
  | 0, _, _ => none
  | bound + 1, depth, text =>
    match text with
    | '[' :: rest =>
      match depth with
      | 0 => none
      | depth + 1 => do
        let (items, rest) ← items? bound depth (← skipTrivia false rest)
        return (.list items, rest)
    | '\x7b' :: rest =>
      match depth with
      | 0 => none
      | depth + 1 => do
        let (pairs, rest) ← pairs? bound depth (← skipTrivia false rest)
        let table ← inlineTable pairs
        return (table, rest)
    | '"' :: _ | '\'' :: _ => (string? text).map fun (content, rest) => (.text content, rest)
    | _ => do
      let (scalar, rest) := splitScalar text
      return (← scalar? scalar, rest)

/-- Reads the items of an array up to its closing bracket. -/
def items? : Nat → Nat → List Char → Option (List Datum × List Char)
  | 0, _, _ => none
  | bound + 1, depth, text =>
    match text with
    | ']' :: rest => some ([], rest)
    | _ => do
      let (item, rest) ← value? bound depth text
      match ← skipTrivia false rest with
      | ',' :: rest =>
        let (items, rest) ← items? bound depth (← skipTrivia false rest)
        return (item :: items, rest)
      | ']' :: rest => return ([item], rest)
      | _ => none

/-- Reads the pairs of an inline table up to its closing brace. Lines may end anywhere between the
parts of a pair. -/
def pairs? : Nat → Nat → List Char → Option (List Pair × List Char)
  | 0, _, _ => none
  | bound + 1, depth, text =>
    match text with
    | '\x7d' :: rest => some ([], rest)
    | _ => do
      let ((path, key), rest) ← boundedKey? text
      match ← skipTrivia false rest with
      | '=' :: rest =>
        let (value, rest) ← value? bound depth (← skipTrivia false rest)
        let pair : Pair := ⟨path, key, value⟩
        match ← skipTrivia false rest with
        | ',' :: rest =>
          let (pairs, rest) ← pairs? bound depth (← skipTrivia false rest)
          return (pair :: pairs, rest)
        | '\x7d' :: rest => return ([pair], rest)
        | _ => none
      | _ => none

end

def pair? (text : List Char) : Option (Pair × List Char) := do
  let ((path, key), rest) ← boundedKey? text
  match rest with
  | '=' :: rest =>
    let rest := skipBlanks rest
    let (value, rest) ← value? (2 * rest.length + 2) depthLimit rest
    return (⟨path, key, value⟩, ← skipLineEnd false rest)
  | _ => none

def header? (text : List Char) : Option (Section × List Char) :=
  match text with
  | '[' :: rest => do
    let ((path, key), rest) ← boundedKey? rest
    match rest with
    | ']' :: ']' :: rest => return (⟨path, key, true, []⟩, ← skipLineEnd false rest)
    | _ => none
  | _ => do
    let ((path, key), rest) ← boundedKey? text
    match rest with
    | ']' :: rest => return (⟨path, key, false, []⟩, ← skipLineEnd false rest)
    | _ => none

/-- Reads lines to the end. The answer holds the values before the first header and the sections
after it. -/
def lines? : Nat → List Char → Option (List Pair × List Section)
  | 0, _ => none
  | bound + 1, text => do
    match ← skipTrivia false text with
    | [] => return ([], [])
    | '[' :: rest =>
      let (part, rest) ← header? rest
      let (pairs, sections) ← lines? bound rest
      return ([], { part with pairs } :: sections)
    | rest =>
      let (pair, rest) ← pair? rest
      let (pairs, sections) ← lines? bound rest
      return (pair :: pairs, sections)

/-- A mark of the byte order may stand in front. -/
def skipMark : List Char → List Char
  | '\ufeff' :: rest => rest
  | text => text

/-- The table that a document denotes, unless it breaks a rule. -/
def parse? (document : String) : Option Datum := do
  let text := skipMark document.toList
  let (pairs, sections) ← lines? (text.length + 1) text
  build pairs sections

end RingQueue.Toml
