import RingQueue.Number.Binary64

/-! JSON values. Whole numbers are kept apart from those with a fraction or an exponent, and the
members of an object keep their order. -/
namespace RingQueue.Json

inductive Value where
  | null
  | bool (value : Bool)
  | whole (value : Int)
  | float (value : Number.Binary64)
  | string (value : String)
  | array (items : List Value)
  | object (members : List (String × Value))
  deriving Repr

end RingQueue.Json
