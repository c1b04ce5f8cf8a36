import RingQueue.Number.Digits

/-! Dates and times. Their normal form has a capital `T` and `Z`, seconds only where they were
given, and a fraction of at most nine digits without final zeros. -/
namespace RingQueue.Toml

open RingQueue.Number

/-- Reads exactly `count` digits. -/
def figures? (count : Nat) (text : List Char) : Option (Nat × List Char) :=
  (ofDigits? 10 (text.take count)).bind fun value =>
    if (text.take count).length = count then some (value, text.drop count) else none

def expect? (c : Char) : List Char → Option (List Char)
  | d :: rest => if d = c then some rest else none
  | [] => none

def isLeapYear (year : Nat) : Bool := year % 4 = 0 && (year % 100 ≠ 0 || year % 400 = 0)

def daysIn (year month : Nat) : Nat :=
  if month = 2 then (if isLeapYear year then 29 else 28)
  else if month = 4 ∨ month = 6 ∨ month = 9 ∨ month = 11 then 30
  else 31

def padded (width n : Nat) : String :=
  .ofList (.replicate (width - (digits n).length) '0' ++ digits n)

def date? (text : List Char) : Option (String × List Char) := do
  let (year, rest) ← figures? 4 text
  let (month, rest) ← figures? 2 (← expect? '-' rest)
  let (day, rest) ← figures? 2 (← expect? '-' rest)
  if 1 ≤ month ∧ month ≤ 12 ∧ 1 ≤ day ∧ day ≤ daysIn year month then
    return (padded 4 year ++ "-" ++ padded 2 month ++ "-" ++ padded 2 day, rest)
  else none

def fractionText (figures : List Char) : String :=
  let kept := figures.take 9
  let trimmed := (kept.reverse.dropWhile (· = '0')).reverse
  "." ++ .ofList (if trimmed = [] then ['0'] else trimmed)

def seconds? (text : List Char) : Option (String × List Char) := do
  let (second, rest) ← figures? 2 text
  if 60 < second then none
  else
    match rest with
    | '.' :: rest =>
      let figures := rest.takeWhile (isDigit 10)
      if figures = [] then none
      else return (":" ++ padded 2 second ++ fractionText figures, rest.dropWhile (isDigit 10))
    | _ => return (":" ++ padded 2 second, rest)

def time? (text : List Char) : Option (String × List Char) := do
  let (hour, rest) ← figures? 2 text
  let (minute, rest) ← figures? 2 (← expect? ':' rest)
  if 23 < hour ∨ 59 < minute then none
  else
    let start := padded 2 hour ++ ":" ++ padded 2 minute
    match rest with
    | ':' :: rest =>
      let (second, rest) ← seconds? rest
      return (start ++ second, rest)
    | _ => return (start, rest)

def offset? : List Char → Option (String × List Char)
  | [] => none
  | c :: rest =>
    if c = 'Z' ∨ c = 'z' then some ("Z", rest)
    else if c = '+' ∨ c = '-' then do
      let (hour, rest) ← figures? 2 rest
      let (minute, rest) ← figures? 2 (← expect? ':' rest)
      if 23 < hour ∨ 59 < minute then none
      else
        let sign := if c = '-' ∧ (hour ≠ 0 ∨ minute ≠ 0) then "-" else "+"
        return (sign ++ padded 2 hour ++ ":" ++ padded 2 minute, rest)
    else none

def moment? (text : List Char) : Option String :=
  match date? text with
  | some (date, []) => some date
  | some (date, c :: rest) =>
    if c = 'T' ∨ c = 't' ∨ c = ' ' then
      match time? rest with
      | some (time, []) => some (date ++ "T" ++ time)
      | some (time, rest) =>
        match offset? rest with
        | some (offset, []) => some (date ++ "T" ++ time ++ offset)
        | _ => none
      | none => none
    else none
  | none =>
    match time? text with
    | some (time, []) => some time
    | _ => none

/-- Whether a blank after this text can be the one between a date and a time. -/
def endsInDate (text : List Char) : Bool :=
  match date? text with
  | some (_, []) => true
  | _ => false

end RingQueue.Toml
