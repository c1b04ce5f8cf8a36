import RingQueue.Files.Path

/-! A tree of files, as far as the program can see one. -/
namespace RingQueue.Files

inductive Entry where
  | file (content : ByteArray)
  | directory

/-- The entries below the root, by their steps from it, and the current directory. -/
structure Tree where
  entries : List (List String × Entry)
  current : List String

namespace Tree

def entry? (tree : Tree) (location : List String) : Option Entry :=
  if location = [] then some .directory else tree.entries.lookup location

def isDirectoryAt (tree : Tree) (location : List String) : Bool :=
  match tree.entry? location with
  | some .directory => true
  | _ => false

/-- Follows steps from a location. Only a directory can be left, upward or downward. -/
def walk (tree : Tree) (location : List String) : List String → Option (List String)
  | [] => some location
  | step :: rest =>
    if tree.isDirectoryAt location then
      walk tree (if step = ".." then location.dropLast else location ++ [step]) rest
    else none

def currentPath (tree : Tree) : String := "/" ++ "/".intercalate tree.current

/-- The longest path that can be followed, in bytes. -/
def longestPath : Nat := 4095

/-- Where a path leads, whether or not something is there. -/
def locate (tree : Tree) (path : String) : Option (List String) :=
  if path = "" ∨ '\x00' ∈ path.toList ∨
      longestPath < (join tree.currentPath path).utf8ByteSize then none
  else tree.walk (if isAbsolute path then [] else tree.current) (steps path)

def find? (tree : Tree) (path : String) : Option Entry :=
  match (tree.locate path).bind tree.entry? with
  | some .directory => some .directory
  | some (.file content) => if namesDirectory path then none else some (.file content)
  | none => none

def read? (tree : Tree) (path : String) : Option ByteArray :=
  match tree.find? path with
  | some (.file content) => some content
  | _ => none

def exists? (tree : Tree) (path : String) : Bool := (tree.find? path).isSome

/-- The longest name that an entry can have, in bytes. -/
def longestName : Nat := 255

/-- Writes a file, over an older one if need be. Its directory has to be there. -/
def write? (tree : Tree) (path : String) (content : ByteArray) : Option Tree :=
  if namesDirectory path then none
  else
    match tree.locate path with
    | none => none
    | some location =>
      if tree.isDirectoryAt location ∨ !tree.isDirectoryAt location.dropLast ∨
          location.any (longestName < ·.utf8ByteSize) then none
      else some { tree with entries := (location, .file content) :: tree.entries }

end Tree
end RingQueue.Files
