import RingQueue.Log.Level
import RingQueue.Number.Format
import RingQueue.Number.Reading
import RingQueue.Pattern.Matcher
import RingQueue.Text.Alphanumeric
import RingQueue.Text.Blank

/-! Directives say up to which level records are logged: those of a target, inside a span, with a
field, or all. They are written `target[span{field=value}]=level`, and each part may be missing. -/
namespace RingQueue.Log

open RingQueue.Number

/-- What the value of a field has to be. -/
inductive FieldValue where
  | flag (value : Bool)
  | float (value : Binary64)
  | notNumber
  | unsigned (value : Nat)
  | signed (value : Int)
  | pattern (text : String)
  deriving DecidableEq, Repr

namespace FieldValue

/-- Reads a value. What is neither a truth value nor a number has to be a pattern. -/
def ofText (text : String) : Except Pattern.Problem FieldValue :=
  if text = "true" then .ok (flag true)
  else if text = "false" then .ok (flag false)
  else
    match unsigned? text.toList, signed? text.toList, Binary64.parse? text.toList with
    | some n, _, _ => .ok (unsigned n)
    | none, some n, _ => .ok (signed n)
    | none, none, some .nan => .ok notNumber
    | none, none, some value => .ok (float value)
    | none, none, none =>
      match Pattern.problem? text.toList with
      | some problem => .error problem
      | none => .ok (pattern text)

def text : FieldValue → String
  | flag value => if value then "true" else "false"
  | float value => value.text .plain
  | notNumber => "NaN"
  | unsigned n => decimal n
  | signed n => signedDecimal n
  | pattern text => text

/-- Kinds of values come in this order. -/
def kind : FieldValue → Nat
  | flag _ => 0
  | float _ => 1
  | notNumber => 2
  | unsigned _ => 3
  | signed _ => 4
  | pattern _ => 5

/-- The place of a value among those of its kind that are not text. -/
def size : FieldValue → Int
  | flag value => if value then 1 else 0
  | float value => value.units
  | unsigned n => n
  | signed n => n
  | _ => 0

def order (a b : FieldValue) : Ordering :=
  (compare a.kind b.kind).then <| (compare a.size b.size).then <|
    match a, b with
    | pattern a, pattern b => compare a b
    | _, _ => .eq

end FieldValue

/-- A field that a record has to have. -/
structure FieldMatch where
  name : String
  value : Option FieldValue
  deriving DecidableEq, Repr

namespace FieldMatch

/-- Reads a name and, after a sign of equality, a value. Anything after another sign is left out. -/
def ofText (text : String) : Except Pattern.Problem FieldMatch :=
  let name := text.toList.takeWhile (· ≠ '=')
  match text.toList.dropWhile (· ≠ '=') with
  | [] => .ok ⟨.ofList name, none⟩
  | _ :: rest =>
    (FieldValue.ofText (.ofList (rest.takeWhile (· ≠ '=')))).map fun value =>
      ⟨.ofList name, some value⟩

def text (field : FieldMatch) : String :=
  match field.value with
  | none => field.name
  | some value => field.name ++ "=" ++ value.text

/-- A field with a value comes after one without. -/
def order (a b : FieldMatch) : Ordering :=
  (compare a.value.isSome b.value.isSome).then <| (compare a.name b.name).then <|
    match a.value, b.value with
    | some a, some b => a.order b
    | _, _ => .eq

end FieldMatch

structure Directive where
  target : Option String
  span : Option String
  field : Option FieldMatch
  level : Level
  deriving DecidableEq, Repr

inductive DirectiveError where
  | form
  | level
  | field (problem : Pattern.Problem)
  deriving DecidableEq, Repr

def DirectiveError.message : DirectiveError → String
  | form => "invalid filter directive"
  | level =>
    "error parsing level filter: expected one of \"off\", \"error\", \"warn\", " ++
      "\"info\", \"debug\", \"trace\", or a number 0-5"
  | field problem => "invalid field filter: " ++ problem.message

namespace Directive

/-- A byte that decides how a directive is read, and the byte that is taken in its place. They
differ when blanks stand in front: the text without them decides, and the text with them is
taken. -/
structure Mark where
  seen : UInt8
  taken : UInt8

/-- The bytes of a directive, and those taken after the last that decides. -/
structure Marks where
  marks : List Mark
  tail : List UInt8

def Marks.of (text : String) : Marks :=
  let seen := (String.ofList (Text.trim text.toList)).toUTF8.toList
  let taken := text.toUTF8.toList
  ⟨List.zipWith Mark.mk seen taken, taken.drop seen.length⟩

/-- The text of bytes that form some. -/
def textOf (bytes : List UInt8) : Except DirectiveError String :=
  match String.fromUTF8? ⟨bytes.toArray⟩ with
  | some text => .ok text
  | none => .error .form

/-- The bytes up to a character, and what begins with it. -/
def Marks.cut (marks : Marks) (stop : Char → Bool) : List UInt8 × Marks :=
  let inside (mark : Mark) : Bool := !stop (.ofNat mark.seen.toNat)
  ((marks.marks.takeWhile inside).map Mark.taken,
    { marks with marks := marks.marks.dropWhile inside })

/-- All bytes that are left. -/
def Marks.rest (marks : Marks) : List UInt8 := marks.marks.map Mark.taken ++ marks.tail

def Marks.head? (marks : Marks) : Option Char :=
  marks.marks.head?.map fun mark => .ofNat mark.seen.toNat

def Marks.skip (marks : Marks) : Marks := { marks with marks := marks.marks.drop 1 }

/-- Reads what stands after the sign of equality. Nothing there means all levels. -/
def readLevel (marks : Marks) : Except DirectiveError Level := do
  let word ← textOf marks.rest
  if word = "" then return .trace
  match Level.parse? word with
  | some level => return level
  | none => throw .level

/-- Reads the end of a directive after its brackets. -/
def readEnd (marks : Marks) : Except DirectiveError Level :=
  match marks.head? with
  | none => .ok .trace
  | some c => if c = '=' then readLevel marks.skip else .error .form

/-- Reads a field between braces, up to the closing bracket. -/
def readField (marks : Marks) : Except DirectiveError (FieldMatch × Marks) := do
  let (field, rest) := marks.cut (· = '\x7d')
  if rest.head? = none then throw .form
  let field ← textOf field
  if field = "" then throw .form
  let field ← (FieldMatch.ofText field).mapError .field
  if rest.skip.head? = some ']' then return (field, rest.skip.skip)
  throw .form

def readSpan (target : Option String) (marks : Marks) : Except DirectiveError Directive := do
  let (span, rest) := marks.skip.cut fun c => c = ']' || c = '\x7b'
  let span ← textOf span
  match rest.head? with
  | none => throw .form
  | some c =>
    if c = ']' then
      return { target, span := some span, field := none, level := ← readEnd rest.skip }
    let (field, rest) ← readField rest.skip
    let span := if span = "" then none else some span
    return { target, span, field := some field, level := ← readEnd rest }

/-- Reads a directive that starts with its target or is a level alone. -/
def readTarget (marks : Marks) : Except DirectiveError Directive := do
  let (target, rest) := marks.cut fun c => c = '=' || c = '['
  match rest.head? with
  | none =>
    let word ← textOf marks.rest
    match Level.parse? word with
    | some level => return { target := none, span := none, field := none, level }
    | none => return { target := some word, span := none, field := none, level := .trace }
  | some c =>
    let target ← textOf target
    if c = '[' then readSpan (some target) rest
    else
      return { target := some target, span := none, field := none, level := ← readLevel rest.skip }

/-- Whether a target or a level can start with a character. -/
def canStart (c : Char) : Bool := c = '-' || c = ':' || c = '_' || Text.isAlphanumeric c

def parse (text : String) : Except DirectiveError Directive :=
  match Text.trim text.toList with
  | [] => .error .form
  | c :: _ =>
    if c = '[' then readSpan none (.of text)
    else if canStart c then readTarget (.of text)
    else .error .form

/-- What stands in brackets, if there is anything to say. -/
def placeText (directive : Directive) : String :=
  match directive.span, directive.field with
  | none, none => ""
  | span, field =>
    "[" ++ span.getD "" ++ (field.map fun field => "\x7b" ++ field.text ++ "\x7d").getD "" ++ "]"

def text (directive : Directive) : String :=
  let place := directive.target.getD "" ++ directive.placeText
  if directive.target.isNone ∧ place = "" then directive.level.word
  else place ++ "=" ++ directive.level.word

/-- Whether a directive is about single records only, whatever span they are in. -/
def isStatic (directive : Directive) : Bool :=
  directive.span.isNone && (directive.field.bind FieldMatch.value).isNone

/-- Whether a directive can only be judged when spans are entered. -/
def isDynamic (directive : Directive) : Bool :=
  directive.span.isSome || directive.field.isSome

/-- Parts that are absent come before those that are there. -/
def orderParts (order : α → α → Ordering) : Option α → Option α → Ordering
  | none, none => .eq
  | none, some _ => .lt
  | some _, none => .gt
  | some a, some b => order a b

/-- The order of how special directives are: longer targets come after shorter ones, then those
with a span or a field after those without. -/
def order (a b : Directive) : Ordering :=
  (orderParts compare (a.target.map String.utf8ByteSize) (b.target.map String.utf8ByteSize)).then <|
  (compare a.span.isSome b.span.isSome).then <|
  (compare a.field.isSome b.field.isSome).then <|
  (orderParts compare a.target b.target).then <|
  (orderParts compare a.span b.span).then <|
  orderParts FieldMatch.order a.field b.field

end Directive
end RingQueue.Log
