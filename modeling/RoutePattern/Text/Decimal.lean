import RoutePattern.Text

/-! # Decimal numbers

Natural numbers as texts of ASCII digits. Reading accepts leading zeros and one `+` in front, and
refuses numbers that need more than 64 bits.
-/

namespace RoutePattern.Text.Decimal

def isDigit (c : Char) : Bool := '0' ≤ c && c ≤ '9'

def digitValue (c : Char) : Nat := c.toNat - '0'.toNat

def value (digits : Text) : Nat := digits.foldl (fun n c => 10 * n + digitValue c) 0

/-- The digits of a number, without leading zeros. -/
def write (n : Nat) : Text := Nat.toDigits 10 n

/-- A number of digits alone, within 64 bits. -/
def readDigits? (t : Text) : Option Nat :=
  if !t.isEmpty && t.all isDigit && value t < UInt64.size then some (value t) else none

/-- A number with an optional sign `+`. -/
def read? : Text → Option Nat
  | '+' :: t => readDigits? t
  | t => readDigits? t

end RoutePattern.Text.Decimal
