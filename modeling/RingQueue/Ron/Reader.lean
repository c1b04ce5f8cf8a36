import RingQueue.Ron.Number

/-! Reading RON documents. Records and maps are tables, and the names of records do not count. -/
namespace RingQueue.Ron

/-- The count of values that may hold each other, where a value in a list, a record or a map counts
twice. -/
def depthLimit : Nat := 128

/-- Whether the fields of a record, behind its opening bracket, have names. -/
def named? (text : List Char) : Option Bool := do
  let text ← skip? text
  match word? text with
  | some (_, _, rest) => return (← skip? rest).head? = some ':'
  | none => return false

def keyOf? : Datum → Option String
  | .text name => some name
  | _ => none

mutual

/-- Reads a value. `depth` bounds the nesting and `bound` the steps. -/
def value? : Nat → Nat → List Char → Option (Datum × List Char)
  | 0, _, _ => none
  | bound + 1, depth, text =>
    match word? text with
    | some (marked, name, rest) =>
      let name := if marked then "" else String.ofList name
      if name = "true" then some (.bool true, rest)
      else if name = "false" then some (.bool false, rest)
      else if name = "None" then some (.nil, rest)
      else if name = "Some" then present? bound depth rest
      else match ofWord? false name.toList with
        | some value => some (.float value, rest)
        | none => do
          match ← skip? rest with
          | '(' :: rest => record? bound depth rest
          | rest => return (.nil, rest)
    | none =>
      match text with
      | '(' :: ')' :: rest => some (.nil, rest)
      | '(' :: rest => record? bound depth rest
      | '[' :: rest =>
        if depth = 0 then none
        else (items? ']' bound (depth - 1) rest).map fun (items, rest) => (.list items, rest)
      | '\x7b' :: rest =>
        if depth = 0 then none
        else (entries? bound (depth - 1) rest).map fun (members, rest) =>
          (.table (lastOnly members), rest)
      | '\'' :: rest => (quotedChar? rest).map fun (c, rest) => (.text (.singleton c), rest)
      | '"' :: _ | 'r' :: _ => (quoted? text).map fun (content, rest) => (.text content, rest)
      | 'b' :: _ => byteChar? text
      | _ => number? text

/-- Reads the value of an option behind its name. -/
def present? : Nat → Nat → List Char → Option (Datum × List Char)
  | bound + 1, depth + 1, text => do
    match ← skip? text with
    | '(' :: rest => do
      let (value, rest) ← value? bound depth (← skip? rest)
      let rest ← skip? rest
      let rest ← match rest with
        | ',' :: rest => skip? rest
        | _ => some rest
      match rest with
      | ')' :: rest => return (value, rest)
      | _ => none
    | _ => none
  | _, _, _ => none

/-- Reads a record or a tuple behind its opening bracket. -/
def record? : Nat → Nat → List Char → Option (Datum × List Char)
  | bound + 1, depth + 1, text => do
    if ← named? text then
      let (members, rest) ← fields? bound depth text
      return (.table (lastOnly members), rest)
    else
      let (items, rest) ← items? ')' bound depth text
      return (.list items, rest)
  | _, _, _ => none

def items? (close : Char) : Nat → Nat → List Char → Option (List Datum × List Char)
  | 0, _, _ => none
  | bound + 1, depth, text => do
    match ← skip? text with
    | [] => none
    | c :: rest =>
      if c = close then return ([], rest)
      else if depth = 0 then none
      else
        let (item, rest) ← value? bound (depth - 1) (c :: rest)
        match ← skip? rest with
        | ',' :: rest =>
          let (items, rest) ← items? close bound depth rest
          return (item :: items, rest)
        | c :: rest => if c = close then return ([item], rest) else none
        | [] => none

def fields? : Nat → Nat → List Char → Option (List (String × Datum) × List Char)
  | 0, _, _ => none
  | bound + 1, depth, text => do
    match ← skip? text with
    | ')' :: rest => return ([], rest)
    | text =>
      if depth = 0 then none
      else
        let (name, rest) ← fieldName? text
        match ← skip? rest with
        | ':' :: rest =>
          let (value, rest) ← value? bound (depth - 1) (← skip? rest)
          match ← skip? rest with
          | ',' :: rest =>
            let (members, rest) ← fields? bound depth rest
            return ((name, value) :: members, rest)
          | ')' :: rest => return ([(name, value)], rest)
          | _ => none
        | _ => none

/-- Reads the entries of a map up to its closing brace. -/
def entries? : Nat → Nat → List Char → Option (List (String × Datum) × List Char)
  | 0, _, _ => none
  | bound + 1, depth, text => do
    match ← skip? text with
    | '\x7d' :: rest => return ([], rest)
    | text =>
      if depth = 0 then none
      else
        let (key, rest) ← value? bound (depth - 1) text
        let name ← keyOf? key
        match ← skip? rest with
        | ':' :: rest =>
          let (value, rest) ← value? bound (depth - 1) (← skip? rest)
          match ← skip? rest with
          | ',' :: rest =>
            let (members, rest) ← entries? bound depth rest
            return ((name, value) :: members, rest)
          | '\x7d' :: rest => return ([(name, value)], rest)
          | _ => none
        | _ => none

end

/-- The features that a document may ask for. None changes a document without known shape. -/
def features : List String :=
  ["unwrap_newtypes", "implicit_some", "unwrap_variant_newtypes", "explicit_struct_names"]

/-- Goes past characters with white space and comments behind each. -/
def skipOver? : List Char → List Char → Option (List Char)
  | [], text => some text
  | c :: expected, text =>
    match text with
    | first :: rest => if first = c then (skip? rest).bind (skipOver? expected) else none
    | [] => none

/-- Goes past names of features and the brackets behind them. -/
def skipFeatures? : Nat → List Char → Option (List Char)
  | 0, _ => none
  | bound + 1, text => do
    let (name, rest) ← fieldName? text
    if name ∉ features then none
    else match ← skip? rest with
      | ',' :: rest =>
        let rest ← skip? rest
        if (rest.head?.map startsName).getD false then skipFeatures? bound rest
        else skipOver? [')', ']'] rest
      | rest => skipOver? [')', ']'] rest

/-- Goes past the attributes in front of a document. -/
def skipAttributes? : Nat → List Char → Option (List Char)
  | bound + 1, '#' :: text => do
    let rest ← (skip? text).bind (skipOver? ['!', '['])
    if "enable".toList.isPrefixOf rest then
      let rest ← (skip? (rest.drop 6)).bind (skipOver? ['('])
      skipAttributes? bound (← skipFeatures? rest.length rest)
    else none
  | _, text => some text

def parse? (document : String) : Option Datum := do
  let text ← skip? document.toList
  let text ← skipAttributes? text.length text
  let (value, rest) ← value? (4 * text.length + 4) depthLimit text
  let rest ← skip? rest
  if rest = [] then return value else none

end RingQueue.Ron
