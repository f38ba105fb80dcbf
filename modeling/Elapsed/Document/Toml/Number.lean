import Elapsed.Document.Scan

/-!
# TOML numbers and times

How far a number, a date or a time reaches. Their values do not matter to a locale file, but
whether they are in range does: a whole number has to fit into 64 bits with a sign, a number with a
point must not round to positive infinity, and a date has to be in the calendar. Each function
gives the text behind what it skips.
-/

namespace Elapsed.Document.Toml

/-! ## Runs of digits -/

/-- Digits, single underscores between them allowed, and the text behind; the first character has
to be looked at before. -/
def moreDigits (isDigit : Char → Bool) : List Char → List Char × List Char
  | [] => ([], [])
  | c :: rest =>
    if isDigit c then
      let (digits, behind) := moreDigits isDigit rest
      (c :: digits, behind)
    else if c = '_' then
      match rest with
      | [] => ([], c :: rest)
      | d :: tail =>
        if isDigit d then
          let (digits, behind) := moreDigits isDigit tail
          (d :: digits, behind)
        else ([], c :: rest)
    else ([], c :: rest)

/-- Digits, one at least, with single underscores between them allowed. -/
def digits? (isDigit : Char → Bool) : List Char → Option (List Char × List Char)
  | [] => none
  | c :: rest =>
    if isDigit c then
      let (digits, behind) := moreDigits isDigit rest
      some (c :: digits, behind)
    else none

/-- Decimal digits without a needless zero in front. -/
def decimal? : List Char → Option (List Char × List Char)
  | '0' :: rest => some (['0'], rest)
  | text => digits? Char.isDigit text

/-- Takes off a sign; `true` stands for minus. -/
def sign : List Char → Bool × List Char
  | '+' :: rest => (false, rest)
  | '-' :: rest => (true, rest)
  | text => (false, text)

/-! ## Whole numbers -/

/-- Skips digits of a base whose number is below `2 ^ 63`. -/
def based? (base : Nat) (isDigit : Char → Bool) (text : List Char) : Option (List Char) := do
  let (digits, behind) ← digits? isDigit text
  if valueIn base digits < Decimal.power 2 63 then some behind else none

/-- Skips a whole number. Only decimal numbers have a sign. -/
def integer? (text : List Char) : Option (List Char) :=
  match text with
  | '0' :: 'x' :: rest => based? 16 (fun c => (hexValue? c).isSome) rest
  | '0' :: 'o' :: rest => based? 8 (fun c => '0' ≤ c && c ≤ '7') rest
  | '0' :: 'b' :: rest => based? 2 (fun c => c == '0' || c == '1') rest
  | _ => do
    let (negative, rest) := sign text
    let (digits, behind) ← decimal? rest
    let n := valueIn 10 digits
    let bound := Decimal.power 2 63
    if n < bound || (negative && n == bound) then some behind else none

/-! ## Numbers with a point or an exponent -/

/-- An exponent: its value, and the text behind. -/
def exponent? : List Char → Option (Int × List Char)
  | c :: rest =>
    if c = 'e' ∨ c = 'E' then do
      let (negative, tail) := sign rest
      let (digits, behind) ← digits? Char.isDigit tail
      let n : Int := valueIn 10 digits
      some (if negative then -n else n, behind)
    else none
  | [] => none

/-- The digits behind a point and the exponent behind them, one of both at least. -/
def fraction? (text : List Char) : Option (List Char × Int × List Char) :=
  match text with
  | '.' :: rest => do
    let (digits, behind) ← digits? Char.isDigit rest
    match exponent? behind with
    | some (e, tail) => some (digits, e, tail)
    | none => some (digits, 0, behind)
  | _ => do
    let (e, behind) ← exponent? text
    some ([], e, behind)

/-- Skips infinity or not-a-number, with an optional sign. -/
def special? (text : List Char) : Option (List Char) :=
  match (sign text).2 with
  | 'i' :: 'n' :: 'f' :: rest => some rest
  | 'n' :: 'a' :: 'n' :: rest => some rest
  | _ => none

/-- Skips a number with a point or an exponent. A positive one must not round to infinity. -/
def float? (text : List Char) : Option (List Char) :=
  match special? text with
  | some behind => some behind
  | none => do
    let (negative, rest) := sign text
    let (whole, tail) ← decimal? rest
    let (places, e, behind) ← fraction? tail
    if !negative && overflows (valueIn 10 (whole ++ places)) (e - places.length) then none
    else some behind

/-! ## Dates and times -/

/-- A number of two decimal digits. -/
def two? : List Char → Option (Nat × List Char)
  | a :: b :: rest =>
    if a.isDigit && b.isDigit then some (valueIn 10 [a, b], rest) else none
  | _ => none

/-- The number of days in a month. -/
def daysIn (year month : Nat) : Nat :=
  if month = 2 then
    if year % 4 = 0 ∧ (year % 100 ≠ 0 ∨ year % 400 = 0) then 29 else 28
  else if month = 4 ∨ month = 6 ∨ month = 9 ∨ month = 11 then 30
  else 31

/-- Skips a day of the calendar. -/
def date? (text : List Char) : Option (List Char) := do
  let (century, rest) ← two? text
  let (years, rest) ← two? rest
  let (month, rest) ← two? (← skip? '-' rest)
  let (day, rest) ← two? (← skip? '-' rest)
  if 1 ≤ month && month ≤ 12 && 1 ≤ day && day ≤ daysIn (100 * century + years) month then some rest
  else none

/-- Skips parts of a second. -/
def secondParts : List Char → List Char
  | '.' :: c :: rest => if c.isDigit then rest.dropWhile Char.isDigit else '.' :: c :: rest
  | text => text

/-- Skips an hour and a minute. -/
def hourMinute? (text : List Char) : Option (List Char) := do
  let (hour, rest) ← two? text
  let (minute, rest) ← two? (← skip? ':' rest)
  if hour ≤ 23 && minute ≤ 59 then some rest else none

/-- Skips a time of day; a minute may have a leap second. -/
def time? (text : List Char) : Option (List Char) := do
  let (second, rest) ← two? (← skip? ':' (← hourMinute? text))
  if second ≤ 60 then some (secondParts rest) else none

/-- Skips an offset from universal time, if there is one. -/
def offset : List Char → List Char
  | 'Z' :: rest => rest
  | 'z' :: rest => rest
  | '+' :: rest => (hourMinute? rest).getD ('+' :: rest)
  | '-' :: rest => (hourMinute? rest).getD ('-' :: rest)
  | text => text

/-- Skips a time of day behind a date, with its offset, if there is one. -/
def timeOfDay (text : List Char) : List Char :=
  match text with
  | c :: rest =>
    if c = 'T' ∨ c = 't' ∨ c = ' ' then ((time? rest).map offset).getD text else text
  | [] => text

/-- Skips a date, a time of day or both. -/
def dateTime? (text : List Char) : Option (List Char) :=
  match date? text with
  | some rest => some (timeOfDay rest)
  | none => time? text

end Elapsed.Document.Toml
