import KeyCustody.Toml.Number

/-!
# Dates and times in TOML

A date, a time of day, or a date with a time and perhaps an offset. Every function takes a part off the
front of the text and returns what follows.
-/

namespace KeyCustody.Toml

/-- The number that exactly this many digits stand for, and what follows them. -/
def fixedDigits? (count : Nat) (text : List Char) : Option (Nat × List Char) :=
  let digits := text.take count
  if digits.length = count ∧ digits.all isDigit then some (numberOf 10 digits, text.drop count)
  else none

/-- A number of two digits between two bounds, and what follows it. -/
def twoDigits? (low high : Nat) (text : List Char) : Option (Nat × List Char) := do
  let (value, rest) ← fixedDigits? 2 text
  if low ≤ value ∧ value ≤ high then return (value, rest) else none

/-- What follows a given character. -/
def after? (character : Char) : List Char → Option (List Char)
  | first :: rest => if first = character then some rest else none
  | [] => none

/-- The number of days of a month. -/
def daysOf (year month : Nat) : Nat :=
  if month = 2 then
    if year % 4 = 0 ∧ (year % 100 ≠ 0 ∨ year % 400 = 0) then 29 else 28
  else if [4, 6, 9, 11].contains month then 30
  else 31

/-- What follows a date. -/
def afterDate? (text : List Char) : Option (List Char) := do
  let (year, afterYear) ← fixedDigits? 4 text
  let (month, afterMonth) ← twoDigits? 1 12 (← after? '-' afterYear)
  let (_, rest) ← twoDigits? 1 (daysOf year month) (← after? '-' afterMonth)
  return rest

/-- What follows the fraction of a second, if there is one. -/
def skipSecondFraction : List Char → List Char
  | '.' :: digit :: rest =>
    if isDigit digit then rest.dropWhile isDigit else '.' :: digit :: rest
  | text => text

/-- What follows a time of day. A minute may have a leap second. -/
def afterTime? (text : List Char) : Option (List Char) := do
  let (_, afterHour) ← twoDigits? 0 23 text
  let (_, afterMinute) ← twoDigits? 0 59 (← after? ':' afterHour)
  let (_, afterSecond) ← twoDigits? 0 60 (← after? ':' afterMinute)
  return skipSecondFraction afterSecond

/-- What follows the hours and minutes of an offset. -/
def afterOffsetTime? (text : List Char) : Option (List Char) := do
  let (_, afterHour) ← twoDigits? 0 23 text
  let (_, rest) ← twoDigits? 0 59 (← after? ':' afterHour)
  return rest

/-- What follows an offset, if there is one. -/
def skipOffset : List Char → List Char
  | sign :: rest =>
    if sign = 'Z' ∨ sign = 'z' then rest
    else if sign = '+' ∨ sign = '-' then (afterOffsetTime? rest).getD (sign :: rest)
    else sign :: rest
  | [] => []

/-- What follows the time of a date, if there is one. -/
def skipDayTime : List Char → List Char
  | divider :: rest =>
    if divider = 'T' ∨ divider = 't' ∨ divider = ' ' then
      match afterTime? rest with
      | some after => skipOffset after
      | none => divider :: rest
    else divider :: rest
  | [] => []

/-- What follows a date, a time, or both. -/
def afterMoment? (text : List Char) : Option (List Char) :=
  match afterDate? text with
  | some rest => some (skipDayTime rest)
  | none => afterTime? text

end KeyCustody.Toml
