import RingQueue.Number.Digits

/-! Characters that are written as units of 16 bits, each of four hexadecimal digits. -/
namespace RingQueue.Text

open RingQueue.Number

def unit? (text : List Char) : Option (Nat × List Char) :=
  if (text.take 4).length = 4 then
    (ofDigits? 16 (text.take 4)).map fun unit => (unit, text.drop 4)
  else none

/-- Reads a character from behind its `\u`. One beyond 16 bits takes two units. -/
def ofUnits? (text : List Char) : Option (Char × List Char) := do
  let (unit, rest) ← unit? text
  if 0xdc00 ≤ unit ∧ unit ≤ 0xdfff then none
  else if 0xd800 ≤ unit ∧ unit ≤ 0xdbff then
    match rest with
    | '\\' :: 'u' :: rest =>
      let (low, rest) ← unit? rest
      if 0xdc00 ≤ low ∧ low ≤ 0xdfff then
        return (.ofNat (0x10000 + (unit - 0xd800) * 0x400 + (low - 0xdc00)), rest)
      else none
    | _ => none
  else return (.ofNat unit, rest)

end RingQueue.Text
