/-! Character classes and the parts of a document that carry no value. -/
namespace RingQueue.Toml

def isBlank (c : Char) : Bool := c = ' ' || c = '\t'

/-- Control characters other than the tab may stand nowhere. -/
def isControl (c : Char) : Bool := (c.toNat < 32 && c ≠ '\t') || c.toNat = 127

def isBareKeyChar (c : Char) : Bool := c.isAlphanum || c = '_' || c = '-'

def skipBlanks (text : List Char) : List Char := text.dropWhile isBlank

/-- Goes past blanks, line ends and comments. A carriage return counts only before a line feed. -/
def skipTrivia (inComment : Bool) : List Char → Option (List Char)
  | [] => some []
  | '\n' :: rest => skipTrivia false rest
  | '\r' :: '\n' :: rest => skipTrivia false rest
  | c :: rest =>
    if inComment then (if isControl c then none else skipTrivia true rest)
    else if isBlank c then skipTrivia false rest
    else if c = '#' then skipTrivia true rest
    else some (c :: rest)

/-- Goes past the end of a line: blanks, perhaps a comment, and a line end or the end of the
text. -/
def skipLineEnd (inComment : Bool) : List Char → Option (List Char)
  | [] => some []
  | '\n' :: rest => some rest
  | '\r' :: '\n' :: rest => some rest
  | c :: rest =>
    if inComment then (if isControl c then none else skipLineEnd true rest)
    else if isBlank c then skipLineEnd false rest
    else if c = '#' then skipLineEnd true rest
    else none

end RingQueue.Toml
