import RingQueue.Text.Hidden

/-! Text in quotes for messages. What would not show, or would end the quotes, is escaped. -/
namespace RingQueue.Text

/-- The letter after the backslash for a character that has one. -/
def escapeLetter? (c : Char) : Option Char :=
  if c = '\x00' then some '0'
  else if c = '\t' then some 't'
  else if c = '\n' then some 'n'
  else if c = '\r' then some 'r'
  else if c = '"' ∨ c = '\\' then some c
  else none

def escapedChar (c : Char) : List Char :=
  match escapeLetter? c with
  | some letter => ['\\', letter]
  | none =>
    if isHidden c then ['\\', 'u', '\x7b'] ++ Nat.toDigits 16 c.toNat ++ ['\x7d'] else [c]

/-- A text in quotes, as messages show settings and places. -/
def escaped (text : String) : String :=
  .ofList ('"' :: text.toList.flatMap escapedChar ++ ['"'])

end RingQueue.Text
