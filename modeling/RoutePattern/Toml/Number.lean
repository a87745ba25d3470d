import RoutePattern.Text.Decimal

/-! # Numbers in configurations

Which texts are numbers. Integers fit into 64 bits with a sign, a float must not be too large, and an
underscore may stand between two digits.
-/

namespace RoutePattern.Toml.Number

open Text (Decimal.isDigit Decimal.value)

/-- Digits with underscores between them, which are dropped. -/
def moreDigits (isDigit : Char → Bool) : Text → Text × Text
  | [] => ([], [])
  | ['_'] => ([], ['_'])
  | '_' :: c :: t =>
    if isDigit c then
      let (digits, behind) := moreDigits isDigit t
      (c :: digits, behind)
    else ([], '_' :: c :: t)
  | c :: t =>
    if isDigit c then
      let (digits, behind) := moreDigits isDigit t
      (c :: digits, behind)
    else ([], c :: t)

/-- At least one digit. -/
def digits? (isDigit : Char → Bool) (t : Text) : Option (Text × Text) :=
  if t.head?.any isDigit then some (moreDigits isDigit t) else none

/-- The value of digits to a base up to sixteen. -/
def valueOf (base : Nat) (digits : Text) : Nat :=
  digits.foldl (fun n c =>
    base * n + (if Decimal.isDigit c then c.toNat - 48 else c.toLower.toNat - 87)) 0

def largest : Nat := UInt64.size / 2 - 1

def isHexDigit (c : Char) : Bool :=
  Decimal.isDigit c || ('a' ≤ c && c ≤ 'f') || ('A' ≤ c && c ≤ 'F')

/-- The text behind digits to a base, if they are an integer. -/
def based? (base : Nat) (isDigit : Char → Bool) (t : Text) : Option Text := do
  let (digits, behind) ← digits? isDigit t
  if valueOf base digits ≤ largest then some behind else none

/-- A sign, whether it is a minus, and the text behind it. -/
def sign : Text → Bool × Text
  | '+' :: t => (false, t)
  | '-' :: t => (true, t)
  | t => (false, t)

/-- Decimal digits that do not start with a zero unless they are one. -/
def whole? (t : Text) : Option (Text × Text) :=
  match t with
  | '0' :: rest => some (['0'], rest)
  | _ => digits? Decimal.isDigit t

def integer? (t : Text) : Option Text :=
  match t with
  | '0' :: 'x' :: rest => based? 16 isHexDigit rest
  | '0' :: 'o' :: rest => based? 8 (fun c => '0' ≤ c && c ≤ '7') rest
  | '0' :: 'b' :: rest => based? 2 (fun c => c == '0' || c == '1') rest
  | _ => do
    let (negative, t) := sign t
    let (digits, behind) ← whole? t
    if Decimal.value digits ≤ largest + negative.toNat then some behind else none

def exponent? (t : Text) : Option (Bool × Text × Text) :=
  match t with
  | c :: rest =>
    if c = 'e' || c = 'E' then do
      let (negative, t) := sign rest
      let (digits, behind) ← digits? Decimal.isDigit t
      some (negative, digits, behind)
    else none
  | [] => none

/-- The digits behind a point, if there is one. -/
def decimals? (t : Text) : Option (Text × Text) :=
  match t with
  | '.' :: rest => digits? Decimal.isDigit rest
  | _ => none

/-- Numbers from here on are nearer to infinity than to the largest float. -/
def floatLimit : Nat := Nat.pow 2 1024 - Nat.pow 2 970

/-- Whether `digits` times ten to the power of `up - down` is within the range of floats. -/
def isFinite (digits : Text) (up down : Nat) : Bool :=
  let n := Decimal.value digits
  if n = 0 then true
  else if 400 + down < up then false
  else if up + digits.length + 10 < down then true
  else n * Nat.pow 10 (up - down) < floatLimit * Nat.pow 10 (down - up)

/-- The text behind a number with a point or an exponent. -/
def float? (t : Text) : Option Text := do
  let (negative, t) := sign t
  let (digits, t) ← whole? t
  let (decimals, behind) := (decimals? t).getD ([], t)
  match exponent? behind with
  | some (down, power, behind) =>
    let power := Decimal.value power
    let (up, down) := if down then (0, power) else (power, 0)
    if negative || isFinite (digits ++ decimals) up (down + decimals.length) then some behind
    else none
  | none =>
    if !decimals.isEmpty && (negative || isFinite (digits ++ decimals) 0 decimals.length) then
      some behind
    else none

/-- The text behind an infinity or no number at all, which have names. -/
def named? (t : Text) : Option Text :=
  let (_, t) := sign t
  Text.dropHead? "inf".toList t <|> Text.dropHead? "nan".toList t

def read? (t : Text) : Option Text := float? t <|> named? t <|> integer? t

end RoutePattern.Toml.Number
