import RingQueue.Pattern.Reader

/-! Whether a matcher can be made for a pattern. Texts are sequences of characters, so nothing may
match a part of one; letters have no other case, and shorthands no meaning, where characters are
not bytes. -/
namespace RingQueue.Pattern

/-- Why there is no matcher for a pattern. -/
inductive Problem where
  /-- It cannot be read, or means something that is not supported. -/
  | unbuildable
  /-- It asks where words of any script start or end. -/
  | wordEdges
  deriving DecidableEq, Repr

def Problem.message : Problem → String
  | unbuildable => "error building NFA"
  | wordEdges =>
    "unsupported regex feature for DFAs: cannot build DFAs for regexes with Unicode word " ++
      "boundaries; switch to ASCII word boundaries, or heuristically enable Unicode word " ++
      "boundaries or use a different regex engine"

/-- How the parts of a pattern are meant. -/
structure Sense where
  caseless : Bool := false
  unicode : Bool := true
  deriving DecidableEq, Repr

def Sense.apply (sense : Sense) (flags : FlagList) : Sense where
  caseless := (flags.get? .caseless).getD sense.caseless
  unicode := (flags.get? .unicode).getD sense.unicode

def Literal.isAscii (sign : Literal) : Bool := sign.char.toNat < 128

mutual

def Member.fits (sense : Sense) : Member → Bool
  | .literal sign => if sense.unicode then !sense.caseless else sign.isAscii
  | .range first last =>
    if sense.unicode then !sense.caseless else first.isAscii && last.isAscii
  | .named negated => if sense.unicode then !sense.caseless else !negated
  | .shorthand negated => !sense.unicode && !negated
  | .set negated parts => (sense.unicode || !negated) && partsFit sense parts

def partsFit (sense : Sense) : List (List Member) → Bool
  | [] => true
  | part :: parts => membersFit sense part && partsFit sense parts

def membersFit (sense : Sense) : List Member → Bool
  | [] => true
  | item :: items => item.fits sense && membersFit sense items

end

/-- What is found out about a pattern: the sense of what follows it, and whether it asks for the
edges of words of any script. -/
structure Survey where
  sense : Sense
  wordEdges : Bool := false

mutual

/-- Nothing if the pattern has no meaning. -/
def survey? (sense : Sense) : Pattern → Option Survey
  | .empty => some { sense }
  | .literal sign =>
    if if sense.unicode then sense.caseless else sign.short && !sign.isAscii then none
    else some { sense }
  | .any => if sense.unicode then some { sense } else none
  | .edge => some { sense }
  | .wordEdge => some { sense, wordEdges := sense.unicode }
  | .shorthand negated => if sense.unicode || negated then none else some { sense }
  | .set negated parts =>
    if (sense.unicode || !negated) && partsFit sense parts then some { sense } else none
  | .flags found => some { sense := sense.apply found }
  | .repeated body => survey? sense body
  | .group found body =>
    (survey? (sense.apply found) body).map fun inner => { inner with sense }
  | .sequence parts => surveyAll? sense parts
  | .choice parts => surveyAll? sense parts

def surveyAll? (sense : Sense) : List Pattern → Option Survey
  | [] => some { sense }
  | part :: parts => do
    let first ← survey? sense part
    let others ← surveyAll? first.sense parts
    return { others with wordEdges := first.wordEdges || others.wordEdges }

end

/-- The problem with a text as a pattern, if there is one. -/
def problem? (text : List Char) : Option Problem :=
  match (parse? text).bind (survey? {}) with
  | none => some .unbuildable
  | some found => if found.wordEdges then some .wordEdges else none

end RingQueue.Pattern
