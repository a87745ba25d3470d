import RoutePattern.Text.Utf8

/-! # Percent-encoding

Each byte of a text other than an unreserved character is written as `%` and two hexadecimal digits.
Reading keeps a `%` that two digits do not follow, and keeps the whole text where the bytes that
come out are not UTF-8.
-/

namespace RoutePattern.Text.Percent

open Utf8 (Bytes)

/-- Letters, digits and `-`, `_`, `.`, `~`. -/
def isUnreserved (b : UInt8) : Bool :=
  (0x30 ≤ b && b ≤ 0x39) || (0x41 ≤ b && b ≤ 0x5A) || (0x61 ≤ b && b ≤ 0x7A) ||
    b == 0x2D || b == 0x5F || b == 0x2E || b == 0x7E

def hexDigit (n : Nat) : Char := if n < 10 then Char.ofNat (48 + n) else Char.ofNat (55 + n)

def encodeByte (b : UInt8) : Text :=
  if isUnreserved b then [Char.ofNat b.toNat]
  else ['%', hexDigit (b.toNat / 16), hexDigit (b.toNat % 16)]

def encode (t : Text) : Text := (Utf8.encode t).flatMap encodeByte

def hexValue? (c : Char) : Option Nat :=
  if '0' ≤ c && c ≤ '9' then some (c.toNat - 48)
  else if 'A' ≤ c && c ≤ 'F' then some (c.toNat - 55)
  else if 'a' ≤ c && c ≤ 'f' then some (c.toNat - 87)
  else none

/-- The byte that two hexadecimal digits stand for. -/
def byte? (a b : Char) : Option UInt8 := do
  some (UInt8.ofNat (16 * (← hexValue? a) + (← hexValue? b)))

/-- The bytes that an encoded text stands for. -/
def bytes : Text → Bytes
  | [] => []
  | '%' :: a :: b :: rest =>
    match byte? a b with
    | some byte => byte :: bytes rest
    | none => Utf8.encodeChar '%' ++ bytes (a :: b :: rest)
  | c :: rest => Utf8.encodeChar c ++ bytes rest

def decode (t : Text) : Text := (Utf8.decode? (bytes t)).getD t

end RoutePattern.Text.Percent
