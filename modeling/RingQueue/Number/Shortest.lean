import RingQueue.Number.Binary64

/-! The shortest decimal that reads back. The decimals that round to a finite double form an
interval, its ends included exactly when the mantissa is even. Grids of one digit, two digits and
so on are tried in turn; on each, only the two neighbours of the value matter. -/
namespace RingQueue.Number

/-- A positive decimal `number * 10 ^ exponent`. -/
structure Decimal where
  number : Nat
  exponent : Int
  deriving DecidableEq, Repr

namespace Decimal

/-- Moves final zeros of the number into the exponent. -/
def trim (number : Nat) (exponent : Int) : Decimal :=
  if _h : number ≠ 0 ∧ number % 10 = 0 then trim (number / 10) (exponent + 1)
  else ⟨number, exponent⟩
termination_by number
decreasing_by omega

end Decimal

/-- The decimals that round to one double, in quarters of a unit times the shift. -/
structure Interval where
  low : Nat
  value : Nat
  high : Nat
  closed : Bool

namespace Interval

/-- The neighbour below a power of two is half as far away as the one above. -/
def around (mantissa shift : Nat) : Interval where
  low := (4 * mantissa - (if mantissa = 2 ^ 52 ∧ shift ≠ 0 then 1 else 2)) * 2 ^ shift
  value := 4 * mantissa * 2 ^ shift
  high := (4 * mantissa + 2) * 2 ^ shift
  closed := mantissa % 2 = 0

/-- The denominator of the ends. -/
def scale : Nat := 4 * Binary64.one

/-- Whether `num / den` lies in the interval, all over `scale`. -/
def has (i : Interval) (num den : Nat) : Bool :=
  if i.closed then i.low * den ≤ num && num ≤ i.high * den
  else i.low * den < num && num < i.high * den

end Interval

/-- The exponent of the leading decimal digit of `num / den`. -/
def leadingExponent (num den : Nat) : Int :=
  if den ≤ num then ((digits (num / den)).length : Int) - 1
  else
    let places := (digits (den / num)).length
    if num * 10 ^ (places - 1) = den then -((places : Int) - 1) else -(places : Int)

/-- The better of the value's neighbours on the grid `10 ^ exponent`, if one reads back. -/
def onGrid? (tie : Tie) (i : Interval) (exponent : Int) : Option Nat :=
  let up := 10 ^ exponent.toNat
  let down := 10 ^ (-exponent).toNat
  let num := i.value * down
  let den := Interval.scale * up
  let below := num / den
  let nearest := roundDiv tie num den
  let other := below + (below + 1) - nearest
  let reads (candidate : Nat) : Bool := i.has (candidate * den) down
  if reads nearest then some nearest
  else if reads other then some other
  else none

/-- Tries grids with more and more digits. The last one always has a decimal that reads back. -/
def shortestFrom (tie : Tie) (i : Interval) (lead : Int) (count : Nat) : Nat → Decimal
  | 0 =>
    let exponent := lead + 1 - (count : Int)
    .trim (roundDiv tie (i.value * 10 ^ (-exponent).toNat)
      (Interval.scale * 10 ^ exponent.toNat)) exponent
  | fuel + 1 =>
    let exponent := lead + 1 - (count : Int)
    match onGrid? tie i exponent with
    | some number => .trim number exponent
    | none => shortestFrom tie i lead (count + 1) fuel

/-- The shortest decimal for `mantissa * 2 ^ shift` units. Seventeen digits always suffice. -/
def shortest (tie : Tie) (mantissa shift : Nat) : Decimal :=
  let i := Interval.around mantissa shift
  shortestFrom tie i (leadingExponent i.value Interval.scale) 1 16

end RingQueue.Number
