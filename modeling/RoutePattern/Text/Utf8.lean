import RoutePattern.Text

/-! # UTF-8

Texts as bytes. Reading accepts exactly the well-formed sequences: no overlong forms, no surrogates
and nothing above the last code point.
-/

namespace RoutePattern.Text.Utf8

abbrev Bytes := List UInt8

def encodeChar (c : Char) : Bytes :=
  let n := c.toNat
  let tail (unit : Nat) : UInt8 := UInt8.ofNat (0x80 + n / unit % 64)
  if n < 0x80 then [UInt8.ofNat n]
  else if n < 0x800 then [UInt8.ofNat (0xC0 + n / 64), tail 1]
  else if n < 0x10000 then [UInt8.ofNat (0xE0 + n / 4096), tail 64, tail 1]
  else [UInt8.ofNat (0xF0 + n / 262144), tail 4096, tail 64, tail 1]

def encode (t : Text) : Bytes := t.flatMap encodeChar

/-- The low six bits of a byte `80` to `BF`. -/
def tail? (b : UInt8) : Option Nat :=
  if 0x80 ≤ b && b ≤ 0xBF then some (b.toNat - 0x80) else none

/-- A character from its bits, if it needs no fewer bytes than were read. -/
def char? (least code : Nat) : Option Char :=
  if least ≤ code && code.isValidChar then some (Char.ofNat code) else none

/-- Reads bytes as UTF-8. -/
def decode? : Bytes → Option Text
  | [] => some []
  | a :: rest =>
    if a < 0x80 then (decode? rest).map (Char.ofNat a.toNat :: ·)
    else
      match rest with
      | [] => none
      | b :: rest =>
        if 0xC0 ≤ a && a < 0xE0 then do
          let c ← char? 0x80 ((a.toNat - 0xC0) * 64 + (← tail? b))
          (decode? rest).map (c :: ·)
        else
          match rest with
          | [] => none
          | c :: rest =>
            if 0xE0 ≤ a && a < 0xF0 then do
              let d ← char? 0x800
                ((a.toNat - 0xE0) * 4096 + (← tail? b) * 64 + (← tail? c))
              (decode? rest).map (d :: ·)
            else
              match rest with
              | [] => none
              | d :: rest =>
                if 0xF0 ≤ a && a < 0xF8 then do
                  let e ← char? 0x10000
                    ((a.toNat - 0xF0) * 262144 + (← tail? b) * 4096 + (← tail? c) * 64 +
                      (← tail? d))
                  (decode? rest).map (e :: ·)
                else none

end RoutePattern.Text.Utf8
