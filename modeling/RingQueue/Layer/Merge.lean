import RingQueue.Datum
import RingQueue.Layer.Path

/-! Laying one source of values over another. Tables are merged member by member; every other
value takes the place of what was there. A step into something that has no such place puts one
there. -/
namespace RingQueue

/-- The members of a table. Anything else has none. -/
def Datum.members : Datum → List (String × Datum)
  | .table members => members
  | _ => []

/-- The items of a list. Anything else has none. -/
def Datum.items : Datum → List Datum
  | .list items => items
  | _ => []

namespace Layer

/-- Changes the member of a name, which is nil if it is new. -/
def updateMember (name : String) (change : Datum → Datum) :
    List (String × Datum) → List (String × Datum)
  | [] => [(name, change .nil)]
  | (other, value) :: rest =>
    if other = name then (other, change value) :: rest
    else (other, value) :: updateMember name change rest

/-- Changes the item at a position. Missing ones before it are nil, and a position before the
first item puts nil ones in front. -/
def updateItem (position : Int) (change : Datum → Datum) (items : List Datum) : List Datum :=
  let count : Int := items.length
  if 0 ≤ position then
    let index := position.toNat
    let items := items ++ .replicate (index + 1 - items.length) .nil
    items.modify index change
  else if 0 ≤ count + position then items.modify (count + position).toNat change
  else
    (.replicate (-(count + position)).toNat .nil ++ items).modify 0 change

mutual

/-- Lays a value over an older one. -/
def overlay (old : Datum) : Datum → Datum
  | .table members => .table (overlayMembers old.members members)
  | value => value

def overlayMembers (old : List (String × Datum)) : List (String × Datum) → List (String × Datum)
  | [] => old
  | (name, value) :: rest =>
    overlayMembers (updateMember name (fun before => overlay before value) old) rest

end

def setAt (value : Datum) : List Step → Datum → Datum
  | [], old => overlay old value
  | .member name :: rest, old => .table (updateMember name (setAt value rest) old.members)
  | .item position :: rest, old => .list (updateItem position (setAt value rest) old.items)

/-- Lays the entries of a source over the values so far. -/
def apply (root : Datum) (entries : List (String × Datum)) : Datum :=
  entries.foldl (fun root (key, value) => setAt value (placeOf key) root) root

end Layer
end RingQueue
