/-! Regular expressions, as patterns for the values of fields. -/
namespace RingQueue

/-- Ways of reading the rest of a group. -/
inductive Pattern.Flag where
  | caseless
  | lines
  | dotAll
  | swapped
  | unicode
  | carriage
  | verbose
  deriving DecidableEq, Repr

namespace Pattern

def Flag.ofLetter? (c : Char) : Option Flag :=
  if c = 'i' then some caseless
  else if c = 'm' then some lines
  else if c = 's' then some dotAll
  else if c = 'U' then some swapped
  else if c = 'u' then some unicode
  else if c = 'R' then some carriage
  else if c = 'x' then some verbose
  else none

/-- Flags as they are written, one after the other: each is set, or cleared if a minus stands
before it. -/
abbrev FlagList := List (Flag × Bool)

/-- Whether a list sets a flag. -/
def FlagList.get? (flags : FlagList) (flag : Flag) : Option Bool := flags.lookup flag

structure Literal where
  char : Char
  /-- Whether it was written by its number in two digits, which can stand for a single byte. -/
  short : Bool := false
  deriving DecidableEq, Repr

/-- What stands in a set of characters. -/
inductive Member where
  | literal (sign : Literal)
  | range (first last : Literal)
  /-- A set known by its name. -/
  | named (negated : Bool)
  /-- Digits, blanks or the characters of words, by a letter. -/
  | shorthand (negated : Bool)
  /-- A set of its own. Its parts are joined by operators, the first two first. -/
  | set (negated : Bool) (parts : List (List Member))
  deriving Repr

end Pattern

inductive Pattern where
  | empty
  | literal (sign : Pattern.Literal)
  /-- Any character. -/
  | any
  /-- The start or the end of a line or of the text. -/
  | edge
  /-- The start or the end of a word, or any other place. -/
  | wordEdge
  | shorthand (negated : Bool)
  | set (negated : Bool) (parts : List (List Pattern.Member))
  /-- Flags for what follows in the same group. -/
  | flags (flags : Pattern.FlagList)
  | repeated (body : Pattern)
  /-- A group with flags of its own. -/
  | group (flags : Pattern.FlagList) (body : Pattern)
  | sequence (parts : List Pattern)
  | choice (parts : List Pattern)
  deriving Repr, Inhabited

namespace Pattern

def ofSequence : List Pattern → Pattern
  | [] => empty
  | [part] => part
  | parts => sequence parts

/-- The pattern of parts of which one has to match. -/
def ofChoice : List Pattern → Pattern
  | [part] => part
  | parts => choice parts

mutual

def Member.depth : Member → Nat
  | .set _ parts => partsDepth parts + 1
  | _ => 0

/-- How deeply the parts of a set are nested. Each operator nests what is before it. -/
def partsDepth : List (List Member) → Nat
  | [] => 0
  | part :: parts => joinedDepth (partDepth part) parts

def joinedDepth (before : Nat) : List (List Member) → Nat
  | [] => before
  | part :: parts => joinedDepth (max before (partDepth part) + 1) parts

def partDepth : List Member → Nat
  | [] => 0
  | [item] => item.depth
  | item :: items => max item.depth (membersDepth items) + 1

def membersDepth : List Member → Nat
  | [] => 0
  | item :: items => max item.depth (membersDepth items)

end

mutual

/-- How deeply a pattern is nested. -/
def depth : Pattern → Nat
  | set _ parts => partsDepth parts + 1
  | repeated body => body.depth + 1
  | group _ body => body.depth + 1
  | sequence parts => listDepth parts + 1
  | choice parts => listDepth parts + 1
  | _ => 0

def listDepth : List Pattern → Nat
  | [] => 0
  | part :: parts => max part.depth (listDepth parts)

end

end Pattern
end RingQueue
