import RingQueue.Number.Power

/-! Bytes as text. Valid bytes are their text. In others, each longest start of a character that
breaks off, and each byte that starts none, is replaced by one mark. -/
namespace RingQueue.Text

/-- Stands for bytes that are no text. -/
def replacement : Char := '\ufffd'

/-- The bytes that may follow the first byte of a character: how many, and the range of the next
one. Later ones range over all continuation bytes. -/
def following? (first : UInt8) : Option (Nat × UInt8 × UInt8) :=
  if first < 0x80 then some (0, 0x80, 0xbf)
  else if 0xc2 ≤ first ∧ first ≤ 0xdf then some (1, 0x80, 0xbf)
  else if first = 0xe0 then some (2, 0xa0, 0xbf)
  else if first = 0xed then some (2, 0x80, 0x9f)
  else if 0xe1 ≤ first ∧ first ≤ 0xef then some (2, 0x80, 0xbf)
  else if first = 0xf0 then some (3, 0x90, 0xbf)
  else if 0xf1 ≤ first ∧ first ≤ 0xf3 then some (3, 0x80, 0xbf)
  else if first = 0xf4 then some (3, 0x80, 0x8f)
  else none

/-- The bits that the first byte of a character contributes. -/
def leadingBits (first : UInt8) (following : Nat) : Nat :=
  if following = 0 then first.toNat else first.toNat % 2 ^ (6 - following)

/-- Characters of bytes, replacing what is none. Inside a character, `owed` bytes are to come, the
next of them between `low` and `high`, and `value` holds the bits so far. -/
def lossyFrom (owed : Nat) (low high : UInt8) (value : Nat) : List UInt8 → List Char
  | [] => if owed = 0 then [] else [replacement]
  | byte :: rest =>
    if owed ≠ 0 ∧ low ≤ byte ∧ byte ≤ high then
      let value := value * 64 + byte.toNat % 64
      if owed = 1 then .ofNat value :: lossyFrom 0 0 0 0 rest
      else lossyFrom (owed - 1) 0x80 0xbf value rest
    else
      let broken := if owed = 0 then [] else [replacement]
      match following? byte with
      | none => broken ++ replacement :: lossyFrom 0 0 0 0 rest
      | some (0, _, _) => broken ++ .ofNat byte.toNat :: lossyFrom 0 0 0 0 rest
      | some (owed, low, high) =>
        broken ++ lossyFrom owed low high (leadingBits byte owed) rest

/-- The text of bytes. -/
def ofBytes (bytes : ByteArray) : String :=
  match String.fromUTF8? bytes with
  | some text => text
  | none => .ofList (lossyFrom 0 0 0 0 bytes.toList)

end RingQueue.Text
