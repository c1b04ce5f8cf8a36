import RingQueue.Number.Shortest

/-! Texts of double precision numbers: shortest ones in several styles, and ones with a fixed
count of places. -/
namespace RingQueue.Number

/-- How shortest decimals are written. Exponents are those of the leading digit. -/
structure FloatStyle where
  tie : Tie
  /-- Whether a value is written without an exponent. -/
  positional : Int → Bool
  /-- Written after a whole number in positional style. -/
  wholeSuffix : String

namespace FloatStyle

/-- Never an exponent, and no point in a whole number. -/
def plain : FloatStyle where
  tie := .up
  positional _ := true
  wholeSuffix := ""

/-- An exponent from `1e+16` on and below `0.00001`; whole numbers end in `.0`. -/
def scientific : FloatStyle where
  tie := .toEven
  positional exponent := -5 ≤ exponent && exponent < 16
  wholeSuffix := ".0"

end FloatStyle

def zeros (count : Nat) : List Char := .replicate count '0'

def positionalText (wholeSuffix : String) (d : Decimal) : String :=
  let figures := digits d.number
  if 0 ≤ d.exponent then .ofList (figures ++ zeros d.exponent.toNat) ++ wholeSuffix
  else
    let places := (-d.exponent).toNat
    let padded := zeros (places + 1 - figures.length) ++ figures
    let whole := padded.length - places
    .ofList (padded.take whole ++ '.' :: padded.drop whole)

/-- A decimal with one digit before the point and a signed exponent. -/
def scientificText (d : Decimal) : String :=
  let figures := digits d.number
  let exponent := d.exponent + figures.length - 1
  let fraction := figures.drop 1
  let fraction := if fraction = [] then [] else '.' :: fraction
  .ofList (figures.take 1 ++ fraction ++ ['e', if exponent < 0 then '-' else '+'] ++
    digits exponent.natAbs)

def Decimal.text (style : FloatStyle) (d : Decimal) : String :=
  let lead := d.exponent + (digits d.number).length - 1
  if style.positional lead then positionalText style.wholeSuffix d else scientificText d

namespace Binary64

def signText (negative : Bool) : String := if negative then "-" else ""

def text (style : FloatStyle) : Binary64 → String
  | nan => "NaN"
  | infinite negative => signText negative ++ "inf"
  | finite negative mantissa shift =>
    signText negative ++
      if mantissa = 0 then "0" ++ style.wholeSuffix
      else (shortest style.tie mantissa shift).text style

/-- The exact value rounded to a count of places, a tie going to the even neighbour. The sign is
written also when nothing but zeros is left. -/
def fixedText (places : Nat) : Binary64 → String
  | nan => "NaN"
  | infinite negative => signText negative ++ "inf"
  | finite negative mantissa shift =>
    let scaled := roundDiv .toEven (mantissa * 2 ^ shift * 10 ^ places) one
    signText negative ++
      if places = 0 then decimal scaled
      else positionalText "" ⟨scaled, -(places : Int)⟩

end Binary64
end RingQueue.Number
