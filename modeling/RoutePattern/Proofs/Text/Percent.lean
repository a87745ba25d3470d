import RoutePattern.Proofs.Text.Utf8
import RoutePattern.Text.Percent

/-! # Percent-encoding is undone by decoding

An encoded text consists of unreserved characters and `%` (`mem_alphabet_of_mem_encode`), and decoding
gives the text again (`decode_encode`).
-/

namespace RoutePattern.Text.Percent

open Utf8 (Bytes)

/-- The characters of encoded texts. -/
def alphabet : Text :=
  "ABCDEFGHIJKLMNOPQRSTUVWXYZabcdefghijklmnopqrstuvwxyz0123456789-_.~%".toList

/-! ## Digits -/

theorem hexValue?_hexDigit : ∀ n < 16, hexValue? (hexDigit n) = some n := by decide

theorem hexDigit_mem : ∀ n < 16, hexDigit n ∈ alphabet := by decide

theorem unreserved : ∀ n < 256, isUnreserved (UInt8.ofNat n) = true →
    Char.ofNat n ∈ alphabet ∧ Char.ofNat n ≠ '%' ∧
      Utf8.encodeChar (Char.ofNat n) = [UInt8.ofNat n] := by decide +kernel

theorem byte?_hexDigit (b : UInt8) :
    byte? (hexDigit (b.toNat / 16)) (hexDigit (b.toNat % 16)) = some b := by
  have size := b.toNat_lt
  have digits : 16 * (b.toNat / 16) + b.toNat % 16 = b.toNat := Nat.div_add_mod b.toNat 16
  rw [byte?, hexValue?_hexDigit _ (by omega), hexValue?_hexDigit _ (by omega)]
  simp only [bind, Option.bind, digits, UInt8.ofNat_toNat]

/-! ## Bytes -/

/-- A character other than `%` stands for itself. -/
theorem bytes_cons {c : Char} (other : c ≠ '%') (rest : Text) :
    bytes (c :: rest) = Utf8.encodeChar c ++ bytes rest := by
  rw [bytes.eq_def]
  split
  · rename_i empty
    cases empty
  · rename_i same
    exact absurd (List.cons.inj same).1 other
  · rename_i same
    obtain ⟨rfl, rfl⟩ := List.cons.inj same
    rfl

theorem bytes_encodeByte (b : UInt8) (rest : Text) : bytes (encodeByte b ++ rest) = b :: bytes rest := by
  unfold encodeByte
  split
  · -- The byte stands for itself, as the character it is in UTF-8.
    rename_i kept
    rw [← UInt8.ofNat_toNat (x := b)] at kept
    obtain ⟨-, other, single⟩ := unreserved b.toNat b.toNat_lt kept
    rw [List.singleton_append, bytes_cons other, single, UInt8.ofNat_toNat, List.singleton_append]
  · simp only [List.cons_append, List.nil_append, bytes, byte?_hexDigit]

theorem bytes_encode (t : Text) : bytes (encode t) = Utf8.encode t := by
  unfold encode
  induction Utf8.encode t with
  | nil => rw [List.flatMap_nil, bytes]
  | cons b bs ih => rw [List.flatMap_cons, bytes_encodeByte, ih]

/-- Decoding undoes encoding. -/
theorem decode_encode (t : Text) : decode (encode t) = t := by
  rw [decode, bytes_encode, Utf8.decode?_encode, Option.getD_some]

/-! ## Characters -/

theorem mem_alphabet_of_mem_encodeByte {b : UInt8} {c : Char} (member : c ∈ encodeByte b) :
    c ∈ alphabet := by
  have size := b.toNat_lt
  unfold encodeByte at member
  split at member
  · rename_i kept
    rw [← UInt8.ofNat_toNat (x := b)] at kept
    obtain rfl := List.mem_singleton.1 member
    exact (unreserved b.toNat size kept).1
  · simp only [List.mem_cons, List.not_mem_nil, or_false] at member
    rcases member with rfl | rfl | rfl
    · decide
    · exact hexDigit_mem _ (by omega)
    · exact hexDigit_mem _ (by omega)

theorem mem_alphabet_of_mem_encode {t : Text} {c : Char} (member : c ∈ encode t) : c ∈ alphabet := by
  obtain ⟨b, -, inside⟩ := List.mem_flatMap.1 member
  exact mem_alphabet_of_mem_encodeByte inside

theorem encode_ne_nil {t : Text} (nonempty : t ≠ []) : encode t ≠ [] := by
  intro empty
  -- Nothing would decode to nothing.
  have nothing : Utf8.decode? (Utf8.encode t) = some [] := by
    rw [← bytes_encode, empty, bytes, Utf8.decode?]
  rw [Utf8.decode?_encode] at nothing
  exact nonempty (Option.some.inj nothing)

end RoutePattern.Text.Percent
