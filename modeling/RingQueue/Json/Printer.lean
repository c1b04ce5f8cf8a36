import RingQueue.Json.Value
import RingQueue.Number.Format

/-! JSON text over several lines, two blanks deeper for each level. -/
namespace RingQueue.Json

open RingQueue.Number

def hexChar (value : Nat) : Char :=
  if value < 10 then Char.ofNat (48 + value) else Char.ofNat (87 + value)

/-- A character inside quotes. Only quotes, backslashes and control characters are escaped. -/
def escapedChar (c : Char) : List Char :=
  if c = '"' then ['\\', '"']
  else if c = '\\' then ['\\', '\\']
  else if c = '\n' then ['\\', 'n']
  else if c = '\r' then ['\\', 'r']
  else if c = '\t' then ['\\', 't']
  else if c = '\x08' then ['\\', 'b']
  else if c = '\x0c' then ['\\', 'f']
  else if c.toNat < 32 then
    ['\\', 'u', '0', '0', hexChar (c.toNat / 16), hexChar (c.toNat % 16)]
  else [c]

def quoted (text : String) : String :=
  .ofList ('"' :: text.toList.flatMap escapedChar ++ ['"'])

/-- A number with a fraction. What is no finite number is null. -/
def floatText (value : Binary64) : String :=
  if value.isFinite then value.text .scientific else "null"

def indent (depth : Nat) : String := .ofList (.replicate (2 * depth) ' ')

mutual

def Value.prettyAt (depth : Nat) : Value → String
  | .null => "null"
  | .bool value => if value then "true" else "false"
  | .whole value => signedDecimal value
  | .float value => floatText value
  | .string value => quoted value
  | .array [] => "[]"
  | .array (item :: items) =>
    "[\n" ++ indent (depth + 1) ++ item.prettyAt (depth + 1) ++ itemsAt (depth + 1) items ++
      "\n" ++ indent depth ++ "]"
  | .object [] => "\x7b\x7d"
  | .object ((name, value) :: members) =>
    "\x7b\n" ++ indent (depth + 1) ++ quoted name ++ ": " ++ value.prettyAt (depth + 1) ++
      membersAt (depth + 1) members ++ "\n" ++ indent depth ++ "\x7d"

/-- The items after the first. -/
def itemsAt (depth : Nat) : List Value → String
  | [] => ""
  | item :: items => ",\n" ++ indent depth ++ item.prettyAt depth ++ itemsAt depth items

/-- The members after the first. -/
def membersAt (depth : Nat) : List (String × Value) → String
  | [] => ""
  | (name, value) :: members =>
    ",\n" ++ indent depth ++ quoted name ++ ": " ++ value.prettyAt depth ++
      membersAt depth members

end

def Value.pretty (value : Value) : String := value.prettyAt 0

end RingQueue.Json
