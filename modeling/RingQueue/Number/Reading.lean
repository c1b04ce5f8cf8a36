import RingQueue.Number.Binary64

/-! Reading double precision numbers from text. -/
namespace RingQueue.Number

/-- The value of `whole.fraction` times a power of ten. -/
def ofParts (negative : Bool) (whole fraction : List Char) (exponent : Int) : Binary64 :=
  .ofScientific negative (valueOnto 10 (whole ++ fraction) 0) (exponent - fraction.length)

def exponent? : List Char → Option Int
  | '-' :: rest => (ofDigits? 10 rest).map fun n => -(n : Int)
  | '+' :: rest => (ofDigits? 10 rest).map Int.ofNat
  | rest => (ofDigits? 10 rest).map Int.ofNat

def lowerAscii (text : List Char) : List Char := text.map Char.toLower

/-- Reads a number without its sign. Digits may be missing on one side of the point, and the
words for infinity and for no number are known in either case of letters. -/
def magnitude? (negative : Bool) (text : List Char) : Option Binary64 :=
  let word := String.ofList (lowerAscii text)
  if word = "inf" ∨ word = "infinity" then some (.infinite negative)
  else if word = "nan" then some .nan
  else
    let whole := text.takeWhile (isDigit 10)
    let rest := text.dropWhile (isDigit 10)
    let fraction := match rest with
      | '.' :: rest => rest.takeWhile (isDigit 10)
      | _ => []
    let rest := match rest with
      | '.' :: rest => rest.dropWhile (isDigit 10)
      | _ => rest
    if whole = [] ∧ fraction = [] then none
    else match rest with
      | [] => some (ofParts negative whole fraction 0)
      | c :: rest =>
        if c = 'e' ∨ c = 'E' then (exponent? rest).map (ofParts negative whole fraction) else none

def Binary64.parse? : List Char → Option Binary64
  | '-' :: rest => magnitude? true rest
  | '+' :: rest => magnitude? false rest
  | rest => magnitude? false rest

end RingQueue.Number
