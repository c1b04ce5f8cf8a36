/-! Positions in YAML documents, and the kinds of characters that matter there. -/
namespace RingQueue.Yaml

/-- The end of a document reads as a zero. -/
def isEnd (c : Char) : Bool := c = '\x00'

def isBlank (c : Char) : Bool := c = ' ' || c = '\t'

def isBreak (c : Char) : Bool := c = '\n' || c = '\r'

def isBreakOrEnd (c : Char) : Bool := isBreak c || isEnd c

/-- What separates words. -/
def isGap (c : Char) : Bool := isBlank c || isBreakOrEnd c

def isFlowMark (c : Char) : Bool := c = ',' || c = '[' || c = ']' || c = '\x7b' || c = '\x7d'

/-- The characters of names of directives and of handles. -/
def isWordChar (c : Char) : Bool := c.isAlphanum || c = '_' || c = '-'

/-- Where a document is being read. -/
structure Cursor where
  rest : List Char
  index : Nat := 0
  line : Nat := 0
  column : Nat := 0
  /-- Whether only blanks have come on the line so far. -/
  fresh : Bool := true
  deriving Repr

namespace Cursor

def peek (cursor : Cursor) : Char := cursor.rest.headD '\x00'

def peekSecond (cursor : Cursor) : Char := (cursor.rest.drop 1).headD '\x00'

def skipBlanks (count : Nat) (cursor : Cursor) : Cursor :=
  { cursor with
    rest := cursor.rest.drop count
    index := cursor.index + count
    column := cursor.column + count }

/-- Goes past characters that are no line ends. -/
def skip (count : Nat) (cursor : Cursor) : Cursor :=
  if count = 0 then cursor else { cursor.skipBlanks count with fresh := false }

def skipBreak (cursor : Cursor) : Cursor :=
  let count := match cursor.rest with
    | '\r' :: '\n' :: _ => 2
    | c :: _ => if isBreak c then 1 else 0
    | [] => 0
  if count = 0 then cursor
  else
    { rest := cursor.rest.drop count
      index := cursor.index + count
      line := cursor.line + 1
      column := 0
      fresh := true }

/-- The characters from here on that satisfy a test. -/
def run (test : Char → Bool) (cursor : Cursor) : List Char := cursor.rest.takeWhile test

def skipLine (cursor : Cursor) : Cursor := cursor.skip (cursor.run (!isBreakOrEnd ·)).length

/-- Goes past blanks and a comment, before which there has to be a blank. -/
def skipComment? (cursor : Cursor) : Option (List Char × Cursor) :=
  let blanks := cursor.run isBlank
  let cursor := cursor.skipBlanks blanks.length
  if cursor.peek = '#' then
    if blanks = [] then none else some (blanks, cursor.skipLine)
  else some (blanks, cursor)

/-- Whether three marks that stand alone come next. -/
def standsAlone (mark : Char) (cursor : Cursor) : Bool :=
  cursor.rest.take 3 = [mark, mark, mark] && isGap ((cursor.rest.drop 3).headD '\x00')

def atDocumentStart (cursor : Cursor) : Bool := cursor.column = 0 && cursor.standsAlone '-'

def atDocumentEnd (cursor : Cursor) : Bool := cursor.column = 0 && cursor.standsAlone '.'

end Cursor
end RingQueue.Yaml
