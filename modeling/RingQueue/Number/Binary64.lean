import RingQueue.Number.Digits

/-! Double precision numbers as exact values. A finite one is `mantissa * 2 ^ shift` units, and
a unit is `2 ^ -1074`, the smallest positive value; so every question about it is one about
natural numbers. Rounding goes to the nearest representable value, and of two to the even one. -/
namespace RingQueue.Number

/-- Where a value that lies exactly between two candidates goes. -/
inductive Tie where
  | toEven
  | up
  deriving DecidableEq, Repr

def roundDiv (tie : Tie) (num den : Nat) : Nat :=
  let quotient := num / den
  let remainder := num % den
  if 2 * remainder < den then quotient
  else if den < 2 * remainder then quotient + 1
  else match tie with
    | .toEven => quotient + quotient % 2
    | .up => quotient + 1

/-- Rounding makes mantissas of at most 53 bits, and of as many unless the shift is zero. -/
inductive Binary64 where
  | nan
  | infinite (negative : Bool)
  | finite (negative : Bool) (mantissa shift : Nat)
  deriving DecidableEq, Repr

namespace Binary64

/-- The number of units in one. -/
def one : Nat := 2 ^ 1074

def greatestShift : Nat := 2045

def zero : Binary64 := finite false 0 0

/-- The representable value nearest to `num / den` units. -/
def ofUnits (negative : Bool) (num den : Nat) : Binary64 :=
  let whole := num / den
  let shift := if whole < 2 ^ 53 then 0 else whole.log2 - 52
  let mantissa := roundDiv .toEven num (den * 2 ^ shift)
  let (mantissa, shift) :=
    if mantissa = 2 ^ 53 then (2 ^ 52, shift + 1) else (mantissa, shift)
  if greatestShift < shift then infinite negative else finite negative mantissa shift

/-- The representable value nearest to `num / den`. -/
def ofRatio (negative : Bool) (num den : Nat) : Binary64 := ofUnits negative (num * one) den

def ofNat (n : Nat) : Binary64 := ofRatio false n 1

/-- The representable value nearest to `number * 10 ^ exponent`. Magnitudes far outside the
range are settled by the count of digits. -/
def ofScientific (negative : Bool) (number : Nat) (exponent : Int) : Binary64 :=
  let magnitude := ((digits number).length : Int) + exponent
  if number = 0 then finite negative 0 0
  else if 400 < magnitude then infinite negative
  else if magnitude < -400 then finite negative 0 0
  else if 0 ≤ exponent then ofRatio negative (number * 10 ^ exponent.toNat) 1
  else ofRatio negative number (10 ^ (-exponent).toNat)

def mul : Binary64 → Binary64 → Binary64
  | finite n₁ m₁ s₁, finite n₂ m₂ s₂ =>
    ofUnits (n₁ != n₂) (m₁ * 2 ^ s₁ * (m₂ * 2 ^ s₂)) one
  | infinite n₁, infinite n₂ => infinite (n₁ != n₂)
  | infinite n₁, finite n₂ m _ | finite n₂ m _, infinite n₁ =>
    if m = 0 then nan else infinite (n₁ != n₂)
  | nan, _ | _, nan => nan

def div : Binary64 → Binary64 → Binary64
  | finite n₁ m₁ s₁, finite n₂ m₂ s₂ =>
    if m₂ = 0 then (if m₁ = 0 then nan else infinite (n₁ != n₂))
    else ofUnits (n₁ != n₂) (m₁ * 2 ^ s₁ * one) (m₂ * 2 ^ s₂)
  | finite n₁ _ _, infinite n₂ => finite (n₁ != n₂) 0 0
  | infinite n₁, finite n₂ _ _ => infinite (n₁ != n₂)
  | infinite _, infinite _ => nan
  | nan, _ | _, nan => nan

/-- The nearest value that has single precision: at most 24 bits, in units of `2 ^ -149`, and less
than `2 ^ 128`. -/
def toSingle : Binary64 → Binary64
  | finite negative mantissa shift =>
    let units := mantissa * 2 ^ shift
    let cut := max 925 (units.log2 - 23)
    let single := roundDiv .toEven units (2 ^ cut) * 2 ^ cut
    if 2 ^ 128 * one ≤ single then infinite negative else ofUnits negative single 1
  | other => other

def isFinite : Binary64 → Bool
  | finite .. => true
  | _ => false

/-- Neither sign of zero is true; every other value is, one that is no number included. -/
def isNonzero : Binary64 → Bool
  | finite _ mantissa _ => mantissa ≠ 0
  | _ => true

/-- The value in units, which orders all numbers. Infinity is beyond every finite value. -/
def units : Binary64 → Int
  | nan => 0
  | infinite negative => if negative then -(2 ^ 2100) else 2 ^ 2100
  | finite negative mantissa shift =>
    if negative then -(mantissa * 2 ^ shift : Nat) else (mantissa * 2 ^ shift : Nat)

/-- The nearest unsigned 64-bit number, a half going away from zero. Values out of range go to
the nearest end of it, and what is no number to zero. -/
def toWord : Binary64 → Nat
  | nan => 0
  | infinite negative => if negative then 0 else 2 ^ 64 - 1
  | finite negative mantissa shift =>
    if negative then 0 else min (roundDiv .up (mantissa * 2 ^ shift) one) (2 ^ 64 - 1)

end Binary64
end RingQueue.Number
