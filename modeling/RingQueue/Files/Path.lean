import RingQueue.Text.Pieces

/-! Paths as text. A path names its steps between slashes; repeated slashes and single points
change nothing. -/
namespace RingQueue.Files

def split (path : String) : List (List Char) := Text.pieces '/' path.toList

def steps (path : String) : List String :=
  ((split path).filter fun piece => piece ≠ [] && piece ≠ ['.']).map String.ofList

def isAbsolute (path : String) : Bool := path.toList.head? == some '/'

/-- Whether a path can only name a directory. -/
def namesDirectory (path : String) : Bool :=
  match (split path).getLast? with
  | some piece => piece = [] || piece = ['.'] || piece = ['.', '.']
  | none => false

/-- The path of `name` within a directory. An absolute name stands for itself. -/
def join (directory name : String) : String :=
  if isAbsolute name ∨ directory = "" then name
  else if directory.toList.getLast? = some '/' then directory ++ name
  else directory ++ "/" ++ name

/-- The pieces of a path without those at its end that change nothing. The first piece stays. -/
def trimEnd (pieces : List (List Char)) : List (List Char) :=
  pieces.take 1 ++
    ((pieces.drop 1).reverse.dropWhile fun piece => piece = [] || piece = ['.']).reverse

def parent (path : String) : String :=
  let pieces := trimEnd (trimEnd (split path)).dropLast
  if pieces = [[]] then "/" else .ofList (['/'].intercalate pieces)

end RingQueue.Files
