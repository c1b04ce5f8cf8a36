import RingQueue.Number.Digits

/-! Keys that name a place in nested values: a name, then names after points and positions in
brackets. Positions may count from the end. -/
namespace RingQueue.Layer

open RingQueue.Number

inductive Step where
  | member (name : String)
  | item (position : Int)
  deriving DecidableEq, Repr

def isNameChar (c : Char) : Bool := c.isAlphanum || c = '_' || c = '-'

def isPadding (c : Char) : Bool := c = ' ' || c = '\t'

def name? (text : List Char) : Option (String × List Char) :=
  let name := text.takeWhile isNameChar
  if name = [] then none else some (.ofList name, text.dropWhile isNameChar)

/-- Reads a position, with blanks around it, up to the closing bracket. -/
def position? (text : List Char) : Option (Int × List Char) :=
  let text := text.dropWhile isPadding
  let sign := match text with
    | '-' :: _ => ['-']
    | _ => []
  let text := text.drop sign.length
  let figures := text.takeWhile (isDigit 10)
  match (text.dropWhile (isDigit 10)).dropWhile isPadding with
  | ']' :: rest => (signed? (sign ++ figures)).map fun position => (position, rest)
  | _ => none

def steps? : Nat → List Char → Option (List Step)
  | _, [] => some []
  | 0, _ => none
  | bound + 1, '.' :: rest => do
    let (name, rest) ← name? rest
    return .member name :: (← steps? bound rest)
  | bound + 1, '[' :: rest => do
    let (position, rest) ← position? rest
    return .item position :: (← steps? bound rest)
  | _, _ => none

/-- The place that a key names. A key of any other form names the member of just that name. -/
def placeOf (key : String) : List Step :=
  let text := key.toList
  let parsed : Option (List Step) := do
    let (name, rest) ← name? text
    return .member name :: (← steps? rest.length rest)
  parsed.getD [.member key]

end RingQueue.Layer
