import RingQueue.Number.Binary64

/-! The values that configuration sources hold, whatever their notation. Members of a table keep
the order in which they were given. -/
namespace RingQueue

inductive Datum where
  | nil
  | bool (value : Bool)
  | whole (value : Int)
  | float (value : Number.Binary64)
  | text (value : String)
  /-- A date, a time or both, in its normal written form. -/
  | moment (value : String)
  | list (items : List Datum)
  | table (members : List (String × Datum))
  deriving Repr, Inhabited

/-- Members without those whose names are given again later. -/
def lastOnly : List (String × Datum) → List (String × Datum)
  | [] => []
  | (name, value) :: members =>
    if members.any fun (later, _) => later = name then lastOnly members
    else (name, value) :: lastOnly members

end RingQueue
