import RingQueue.Number.Digits

/-! How much is logged. Records have one of the levels other than `off`. -/
namespace RingQueue.Log

open RingQueue.Number

inductive Level where
  | off
  | error
  | warn
  | info
  | debug
  | trace
  deriving DecidableEq, Repr

namespace Level

/-- The place of a level, from the one that logs nothing to the one that logs most. -/
def rank : Level → Nat
  | off => 0
  | error => 1
  | warn => 2
  | info => 3
  | debug => 4
  | trace => 5

def all : List Level := [off, error, warn, info, debug, trace]

def word : Level → String
  | off => "off"
  | error => "error"
  | warn => "warn"
  | info => "info"
  | debug => "debug"
  | trace => "trace"

/-- The more generous of two levels. -/
def max (a b : Level) : Level := if a.rank < b.rank then b else a

/-- Reads a level from its rank or from its word in letters of either case. -/
def parse? (text : String) : Option Level :=
  match (unsigned? text.toList).bind fun rank => all[rank]? with
  | some level => some level
  | none => all.find? fun level => level.word = String.ofList (text.toList.map Char.toLower)

end Level
end RingQueue.Log
