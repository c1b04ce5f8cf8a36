/-! What comes of offering an element to a bounded queue. -/
namespace RingQueue.Queue

/-- An offered element is either taken in or handed back because there is no room. -/
inductive Offer (α : Type u) where
  | accepted
  | full (value : α)
  deriving DecidableEq, Repr

namespace Offer

variable {α : Type u}

/-- The text shown for an element that was handed back. -/
def fullText : String := "queue is full"

/-- The form for diagnostics. It never shows the element. -/
def fullDiagnostic : String := "Full(..)"

def isAccepted : Offer α → Bool
  | accepted => true
  | full _ => false

end Offer
end RingQueue.Queue
