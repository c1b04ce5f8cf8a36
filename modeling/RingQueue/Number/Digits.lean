import RingQueue.Number.Power

/-! Natural numbers as digits. Writing is in base ten; reading is in any base up to sixteen. -/
namespace RingQueue.Number

def digitChar (digit : Nat) : Char := Char.ofNat ('0'.toNat + digit)

/-- The decimal digits of `n`, most significant first, in front of `rest`. -/
def digitsOnto (n : Nat) (rest : List Char) : List Char :=
  if n < 10 then digitChar n :: rest
  else digitsOnto (n / 10) (digitChar (n % 10) :: rest)

def digits (n : Nat) : List Char := digitsOnto n []

def decimal (n : Nat) : String := .ofList (digits n)

/-- The decimal text of an integer, with a sign when it is negative. -/
def signedDecimal : Int → String
  | .ofNat n => decimal n
  | .negSucc n => "-" ++ decimal (n + 1)

/-- The value of a digit in bases up to sixteen. Letters may be of either case. -/
def digitValue? (c : Char) : Option Nat :=
  if '0' ≤ c ∧ c ≤ '9' then some (c.toNat - '0'.toNat)
  else if 'a' ≤ c ∧ c ≤ 'f' then some (c.toNat - 'a'.toNat + 10)
  else if 'A' ≤ c ∧ c ≤ 'F' then some (c.toNat - 'A'.toNat + 10)
  else none

def isDigit (base : Nat) (c : Char) : Bool :=
  match digitValue? c with
  | some value => value < base
  | none => false

/-- The number that digits denote, continued from `value`. -/
def valueOnto (base : Nat) : List Char → Nat → Nat
  | [], value => value
  | c :: rest, value => valueOnto base rest (value * base + (digitValue? c).getD 0)

/-- Reads a text that is all digits and has at least one. -/
def ofDigits? (base : Nat) (text : List Char) : Option Nat :=
  if text ≠ [] ∧ text.all (isDigit base) then some (valueOnto base text 0) else none

/-- The character whose number hexadecimal digits give. -/
def character? (figures : List Char) : Option Char :=
  (ofDigits? 16 figures).bind fun n => if n.isValidChar then some (.ofNat n) else none

/-- Reads an unsigned 64-bit number. A plus sign may stand in front. -/
def unsigned? (text : List Char) : Option Nat :=
  let body := match text with
    | '+' :: rest => rest
    | _ => text
  (ofDigits? 10 body).filter (· < 2 ^ 64)

/-- Reads a signed 64-bit number in a base. Either sign may stand in front. -/
def signedIn? (base : Nat) (text : List Char) : Option Int :=
  match text with
  | '-' :: rest => ((ofDigits? base rest).filter (· ≤ 2 ^ 63)).map fun n => -(n : Int)
  | '+' :: rest => ((ofDigits? base rest).filter (· < 2 ^ 63)).map Int.ofNat
  | rest => ((ofDigits? base rest).filter (· < 2 ^ 63)).map Int.ofNat

def signed? (text : List Char) : Option Int := signedIn? 10 text

end RingQueue.Number
