import Mathlib.Data.List.Basic
import RoutePattern.Text.Utf8

/-! # UTF-8 is read as it was written

The bytes of a character are read as this character whatever follows them (`decode?_encodeChar`), with
one lemma for each number of bytes.
-/

namespace RoutePattern.Text.Utf8

theorem tail?_ofNat (n : Nat) : tail? (UInt8.ofNat (0x80 + n % 64)) = some (n % 64) := by
  have small : 0x80 + n % 64 < UInt8.size := by
    change _ < 256
    omega
  have within : 0x80 + n % 64 ≤ 0xBF := by omega
  simp only [tail?, UInt8.le_ofNat_iff small, UInt8.ofNat_le_iff small, UInt8.reduceToNat,
    Nat.le_add_right, within, decide_true, Bool.and_self, if_true, UInt8.toNat_ofNat_of_lt' small,
    Nat.add_sub_cancel_left]

section Characters

variable {c : Char}

theorem char?_toNat {least : Nat} (enough : least ≤ c.toNat) : char? least c.toNat = some c := by
  have valid : c.toNat.isValidChar := c.valid
  simp [char?, enough, valid, Char.ofNat_toNat]

theorem decode?_one (high : c.toNat < 0x80) (rest : Bytes) :
    decode? (UInt8.ofNat c.toNat :: rest) = (decode? rest).map (c :: ·) := by
  have small : c.toNat < UInt8.size := by
    change _ < 256
    omega
  rw [decode?.eq_def]
  simp only [UInt8.ofNat_lt_iff small, UInt8.reduceToNat, high, if_true,
    UInt8.toNat_ofNat_of_lt' small, Char.ofNat_toNat]

theorem decode?_two (low : 0x80 ≤ c.toNat) (high : c.toNat < 0x800) (rest : Bytes) :
    decode? (UInt8.ofNat (0xC0 + c.toNat / 64) :: UInt8.ofNat (0x80 + c.toNat % 64) :: rest) =
      (decode? rest).map (c :: ·) := by
  have small : 0xC0 + c.toNat / 64 < UInt8.size := by
    change _ < 256
    omega
  -- The range of the first byte tells the number of bytes.
  have one : ¬0xC0 + c.toNat / 64 < 0x80 := by omega
  have two : 0xC0 + c.toNat / 64 < 0xE0 := by omega
  have code : c.toNat / 64 * 64 + c.toNat % 64 = c.toNat := by omega
  rw [decode?.eq_def]
  simp only [UInt8.ofNat_lt_iff small, UInt8.le_ofNat_iff small, UInt8.reduceToNat, one, if_false,
    Nat.le_add_right, two, decide_true, Bool.and_self, if_true]
  rw [tail?_ofNat, UInt8.toNat_ofNat_of_lt' small, Nat.add_sub_cancel_left]
  simp only [Option.bind_eq_bind]
  rw [Option.bind_some, code, char?_toNat low, Option.bind_some]

theorem decode?_three (low : 0x800 ≤ c.toNat) (high : c.toNat < 0x10000) (rest : Bytes) :
    decode? (UInt8.ofNat (0xE0 + c.toNat / 4096) :: UInt8.ofNat (0x80 + c.toNat / 64 % 64) ::
      UInt8.ofNat (0x80 + c.toNat % 64) :: rest) = (decode? rest).map (c :: ·) := by
  have small : 0xE0 + c.toNat / 4096 < UInt8.size := by
    change _ < 256
    omega
  have one : ¬0xE0 + c.toNat / 4096 < 0x80 := by omega
  have two : ¬0xE0 + c.toNat / 4096 < 0xE0 := by omega
  have three : 0xE0 + c.toNat / 4096 < 0xF0 := by omega
  have code : c.toNat / 4096 * 4096 + c.toNat / 64 % 64 * 64 + c.toNat % 64 = c.toNat := by
    omega
  rw [decode?.eq_def]
  simp only [UInt8.ofNat_lt_iff small, UInt8.le_ofNat_iff small, UInt8.reduceToNat, one, if_false,
    two, decide_false, Bool.and_false, Bool.false_eq_true, Nat.le_add_right, three, decide_true,
    Bool.and_self, if_true]
  rw [tail?_ofNat, tail?_ofNat, UInt8.toNat_ofNat_of_lt' small,
    Nat.add_sub_cancel_left]
  simp only [Option.bind_eq_bind]
  rw [Option.bind_some, Option.bind_some, code, char?_toNat low,
    Option.bind_some]

theorem decode?_four (low : 0x10000 ≤ c.toNat) (high : c.toNat < 0x110000) (rest : Bytes) :
    decode? (UInt8.ofNat (0xF0 + c.toNat / 262144) :: UInt8.ofNat (0x80 + c.toNat / 4096 % 64) ::
      UInt8.ofNat (0x80 + c.toNat / 64 % 64) :: UInt8.ofNat (0x80 + c.toNat % 64) :: rest) =
      (decode? rest).map (c :: ·) := by
  have small : 0xF0 + c.toNat / 262144 < UInt8.size := by
    change _ < 256
    omega
  have one : ¬0xF0 + c.toNat / 262144 < 0x80 := by omega
  have two : ¬0xF0 + c.toNat / 262144 < 0xE0 := by omega
  have three : ¬0xF0 + c.toNat / 262144 < 0xF0 := by omega
  have four : 0xF0 + c.toNat / 262144 < 0xF8 := by omega
  have code : c.toNat / 262144 * 262144 + c.toNat / 4096 % 64 * 4096 +
      c.toNat / 64 % 64 * 64 + c.toNat % 64 = c.toNat := by omega
  rw [decode?.eq_def]
  simp only [UInt8.ofNat_lt_iff small, UInt8.le_ofNat_iff small, UInt8.reduceToNat, one, if_false,
    two, three, decide_false, Bool.and_false, Bool.false_eq_true, Nat.le_add_right, four,
    decide_true, Bool.and_self, if_true]
  rw [tail?_ofNat, tail?_ofNat, tail?_ofNat, UInt8.toNat_ofNat_of_lt' small,
    Nat.add_sub_cancel_left]
  simp only [Option.bind_eq_bind]
  rw [Option.bind_some, Option.bind_some, Option.bind_some, code, char?_toNat low,
    Option.bind_some]

theorem toNat_lt (c : Char) : c.toNat < 0x110000 := by
  have valid : c.toNat.isValidChar := c.valid
  unfold Nat.isValidChar at valid
  omega

theorem decode?_encodeChar (c : Char) (rest : Bytes) :
    decode? (encodeChar c ++ rest) = (decode? rest).map (c :: ·) := by
  unfold encodeChar
  simp only [Nat.div_one]
  split
  · rename_i one
    exact decode?_one one rest
  · rename_i more
    split
    · rename_i two
      exact decode?_two (Nat.le_of_not_lt more) two rest
    · rename_i more
      split
      · rename_i three
        exact decode?_three (Nat.le_of_not_lt more) three rest
      · rename_i more
        exact decode?_four (Nat.le_of_not_lt more) (toNat_lt c) rest

end Characters

/-- A text is read from its bytes. -/
theorem decode?_encode (t : Text) : decode? (encode t) = some t := by
  unfold encode
  induction t with
  | nil => rw [List.flatMap_nil, decode?]
  | cons c t ih => rw [List.flatMap_cons, decode?_encodeChar, ih, Option.map_some]

end RoutePattern.Text.Utf8
