import RoutePattern.Text.Decimal

/-! # Dates

Dates, times and both together, read into their plain written form. Fractions of a second count up to
the ninth digit.
-/

namespace RoutePattern.Toml.Date

open Text (Decimal.isDigit Decimal.value Decimal.write)

/-- A number of exactly `width` digits within bounds, and the text behind it. -/
def number? (width low high : Nat) (t : Text) : Option (Nat × Text) :=
  let digits := t.take width
  let n := Decimal.value digits
  if digits.length = width && digits.all Decimal.isDigit && low ≤ n && n ≤ high then
    some (n, t.drop width)
  else none

def padded (width n : Nat) : Text :=
  let digits := Decimal.write n
  List.replicate (width - digits.length) '0' ++ digits

def isLeap (year : Nat) : Bool := year % 4 == 0 && (year % 100 != 0 || year % 400 == 0)

def daysIn (year month : Nat) : Nat :=
  if month = 2 then (if isLeap year then 29 else 28)
  else if [4, 6, 9, 11].contains month then 30
  else 31

def day? (t : Text) : Option (Text × Text) := do
  let (year, t) ← number? 4 0 9999 t
  let (month, t) ← number? 2 1 12 (← Text.dropHead? ['-'] t)
  let (day, t) ← number? 2 1 (daysIn year month) (← Text.dropHead? ['-'] t)
  some (padded 4 year ++ ['-'] ++ padded 2 month ++ ['-'] ++ padded 2 day, t)

/-- The digits of a fraction without the zeros at its end, and the point before them. -/
def fraction (digits : Text) : Text :=
  let shown := ((digits.take 9).reverse.dropWhile (· == '0')).reverse
  if shown.isEmpty then [] else '.' :: shown

def time? (t : Text) : Option (Text × Text) := do
  let (hour, t) ← number? 2 0 23 t
  let (minute, t) ← number? 2 0 59 (← Text.dropHead? [':'] t)
  let (second, t) ← number? 2 0 60 (← Text.dropHead? [':'] t)
  let shown := padded 2 hour ++ [':'] ++ padded 2 minute ++ [':'] ++ padded 2 second
  match t with
  | '.' :: rest =>
    let digits := rest.takeWhile Decimal.isDigit
    if digits.isEmpty then some (shown, t)
    else some (shown ++ fraction digits, rest.dropWhile Decimal.isDigit)
  | _ => some (shown, t)

/-- The distance from universal time, if one is given. -/
def offset (t : Text) : Text × Text :=
  match t with
  | [] => ([], [])
  | sign :: rest =>
    if sign = 'Z' || sign = 'z' then (['Z'], rest)
    else if sign = '+' || sign = '-' then
      let distance := do
        let (hour, t) ← number? 2 0 23 rest
        let (minute, t) ← number? 2 0 59 (← Text.dropHead? [':'] t)
        let sign := if hour = 0 && minute = 0 then '+' else sign
        some (sign :: padded 2 hour ++ [':'] ++ padded 2 minute, t)
      distance.getD ([], t)
    else ([], t)

/-- The time of a day, if one follows. -/
def timeOfDay (t : Text) : Text × Text :=
  match t with
  | [] => ([], [])
  | c :: rest =>
    if c = 'T' || c = 't' || c = ' ' then
      match time? rest with
      | some (time, behind) =>
        let (distance, behind) := offset behind
        ('T' :: time ++ distance, behind)
      | none => ([], t)
    else ([], t)

def read? (t : Text) : Option (Text × Text) :=
  match day? t with
  | some (day, behind) =>
    let (time, behind) := timeOfDay behind
    some (day ++ time, behind)
  | none => time? t

end RoutePattern.Toml.Date
