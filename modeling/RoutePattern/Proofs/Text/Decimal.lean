import Mathlib.Data.Nat.Digits.Defs
import RoutePattern.Text.Decimal

/-! # Decimal numbers as texts

A number is read as it was written (`read?_write`), and reading accepts just the texts of numbers
(`read?_eq_some_iff`).
-/

namespace RoutePattern.Text.Decimal

theorem value_write (n : Nat) : value (write n) = n := by
  have digits : Nat.ofDigitChars 10 (Nat.toDigits 10 n) 0 = n := Nat.ofDigitChars_ten_toDigits
  rwa [Nat.ofDigitChars_eq_foldl] at digits

theorem isDigit_of_mem_write {n : Nat} {c : Char} (member : c ∈ write n) : isDigit c = true := by
  have digit : c.isDigit = true := Nat.isDigit_of_mem_toDigits (by decide) (by decide) member
  rw [Char.isDigit, Bool.and_eq_true, decide_eq_true_eq, decide_eq_true_eq] at digit
  rw [isDigit, Bool.and_eq_true, decide_eq_true_eq, decide_eq_true_eq]
  exact digit

/-- The digits of a number give it back, as long as it needs no more than 64 bits. -/
theorem read?_write {n : Nat} (fits : n < UInt64.size) : read? (write n) = some n := by
  have filled : write n ≠ [] := Nat.toDigits_ne_nil
  have digits : readDigits? (write n) = some n := by
    have all : (write n).all isDigit = true := List.all_eq_true.2 fun c => isDigit_of_mem_write
    simpa [readDigits?, filled, all, value_write] using fits
  unfold read?
  split
  · -- A sign is no digit.
    rename_i signed
    have sign : isDigit '+' = true := isDigit_of_mem_write (n := n) (by simp [signed])
    cases sign
  · exact digits

/-! ## Numbers as they are written -/

/-- The text is the number in decimal digits, with or without a sign `+` in front, and the number needs
no more than 64 bits. -/
def Denotes (t : Text) (n : Nat) : Prop :=
  ∃ sign digits, t = sign ++ digits ∧ (sign = [] ∨ sign = ['+']) ∧ digits ≠ [] ∧
    (∀ c ∈ digits, isDigit c = true) ∧ Nat.ofDigits 10 (digits.map digitValue).reverse = n ∧
    n < UInt64.size

/-- The value of digits, the last of which counts once. -/
theorem value_eq_ofDigits (digits : Text) :
    value digits = Nat.ofDigits 10 (digits.map digitValue).reverse := by
  rw [Nat.ofDigits_eq_foldr, List.foldr_reverse, List.foldl_map, value]
  simp only [Nat.cast_id, Nat.add_comm]

theorem readDigits?_eq_some_iff {t : Text} {n : Nat} :
    readDigits? t = some n ↔ t ≠ [] ∧ (∀ c ∈ t, isDigit c = true) ∧
      Nat.ofDigits 10 (t.map digitValue).reverse = n ∧ n < UInt64.size := by
  rw [readDigits?, Option.ite_none_right_eq_some, ← value_eq_ofDigits]
  simp only [Bool.and_eq_true, Bool.not_eq_true', List.isEmpty_eq_false_iff, List.all_eq_true,
    decide_eq_true_eq, Option.some.injEq]
  constructor
  · rintro ⟨⟨⟨filled, digits⟩, fits⟩, rfl⟩
    exact ⟨filled, digits, rfl, fits⟩
  · rintro ⟨filled, digits, rfl, fits⟩
    exact ⟨⟨⟨filled, digits⟩, fits⟩, rfl⟩

/-- Reading accepts just the texts of numbers. -/
theorem read?_eq_some_iff {t : Text} {n : Nat} : read? t = some n ↔ Denotes t n := by
  unfold read?
  split
  · rename_i t
    rw [readDigits?_eq_some_iff]
    constructor
    · rintro ⟨filled, digits, number⟩
      exact ⟨['+'], t, rfl, .inr rfl, filled, digits, number⟩
    · rintro ⟨sign, digits, split, rfl | rfl, filled, each, number⟩
      · -- The sign would be the first digit.
        obtain rfl : digits = '+' :: t := split.symm
        cases each '+' List.mem_cons_self
      · obtain ⟨-, rfl⟩ := List.cons.inj split
        exact ⟨filled, each, number⟩
  · rename_i unsigned
    rw [readDigits?_eq_some_iff]
    constructor
    · rintro ⟨filled, digits, number⟩
      exact ⟨[], t, rfl, .inl rfl, filled, digits, number⟩
    · rintro ⟨sign, digits, rfl, rfl | rfl, filled, each, number⟩
      · exact ⟨filled, each, number⟩
      · exact absurd rfl (unsigned digits)

end RoutePattern.Text.Decimal
