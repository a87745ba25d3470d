import RoutePattern.Proofs.Lexeme.Step

/-! # Fragments on their own

Which texts are read as a fragment when they stand between brackets and nothing else does, said without
reading them (`scan_fragment_iff`). The brackets outside of pairs are counted: a text closes its brackets
if no start of it closes more than it opens, and the whole of it closes as many (`closes_iff`).
-/

namespace RoutePattern.Lexeme

open Text (byteLength)

/-- The characters that stand in no pair of a backslash and the character behind it. -/
def unpaired : Text → Text
  | '\\' :: _ :: t => unpaired t
  | c :: t => c :: unpaired t
  | [] => []

/-- Brackets in a text before which `depth` brackets are open: on the way never more are closed than are
open, and at the end none is left open. -/
structure LevelFrom (depth : Nat) (t : Text) : Prop where
  notBelow : ∀ start, start <+: t → start.count ')' ≤ depth + start.count '('
  even : t.count ')' = depth + t.count '('

/-- What stands behind the bracket of a group that does not capture: a `?`, and behind it neither `P<` nor
a `<` with anything but `=` or `!` behind it. -/
def Silent (t : Text) : Prop :=
  ∃ mark, t = '?' :: mark ∧ ¬"P<".toList <+: mark ∧
    ∀ name, mark = '<' :: name → name.head? = some '=' ∨ name.head? = some '!'

variable {depth index : Nat} {bound : Bool} {t f : Text} {c : Char} {ls : List Lexeme}

theorem not_capturing_iff : ¬Capturing t ↔ Silent t := by
  constructor
  · intro bare
    obtain ⟨mark, rfl⟩ : ∃ mark, t = '?' :: mark := by
      rw [← List.head?_eq_some_iff]
      by_contra unmarked
      exact bare (.plain unmarked)
    refine ⟨mark, rfl, ?_, ?_⟩
    · rintro ⟨rest, rfl⟩
      exact bare (.marked rest)
    · rintro name rfl
      by_contra named
      rw [not_or] at named
      exact bare (.named named.1 named.2)
  · rintro ⟨mark, rfl, unlabelled, unnamed⟩ capturing
    cases capturing with
    | plain unmarked => exact unmarked rfl
    | @named name equal unequal => exact (unnamed name rfl).elim equal unequal
    | marked rest => exact unlabelled ⟨rest, rfl⟩

/-! ## Counting brackets -/

theorem levelFrom_nil : LevelFrom depth [] ↔ depth = 0 := by
  constructor
  · intro level
    simpa using level.even.symm
  · rintro rfl
    exact ⟨fun start ahead => by simp [List.prefix_nil.1 ahead], rfl⟩

/-- A character changes what is open, and what stands behind it goes on from there. -/
theorem levelFrom_cons {depth' : Nat}
    (turn : ∀ s : Text, (c :: s).count ')' + depth' + s.count '(' =
      s.count ')' + depth + (c :: s).count '(') :
    LevelFrom depth (c :: t) ↔ LevelFrom depth' t := by
  constructor
  · rintro ⟨notBelow, even⟩
    refine ⟨fun start ahead => ?_, ?_⟩
    · have here := notBelow (c :: start) (List.cons_prefix_cons.2 ⟨rfl, ahead⟩)
      have changed := turn start
      omega
    · have changed := turn t
      omega
  · rintro ⟨notBelow, even⟩
    refine ⟨fun start ahead => ?_, ?_⟩
    · rcases List.prefix_cons_iff.1 ahead with rfl | ⟨rest, rfl, ahead⟩
      · simp
      · have later := notBelow rest (List.prefix_cons_inj c |>.1 ahead)
        have changed := turn rest
        omega
    · have changed := turn t
      omega

theorem levelFrom_opening : LevelFrom depth ('(' :: t) ↔ LevelFrom (depth + 1) t :=
  levelFrom_cons fun s => by simp; omega

theorem levelFrom_closing : LevelFrom (depth + 1) (')' :: t) ↔ LevelFrom depth t :=
  levelFrom_cons fun s => by simp; omega

theorem not_levelFrom_closing : ¬LevelFrom 0 (')' :: t) := by
  intro level
  have here := level.notBelow [')'] (List.cons_prefix_cons.2 ⟨rfl, List.nil_prefix⟩)
  simp at here

theorem levelFrom_char (opening : c ≠ '(') (closing : c ≠ ')') :
    LevelFrom depth (c :: t) ↔ LevelFrom depth t :=
  levelFrom_cons fun s => by simp [List.count_cons_of_ne opening, List.count_cons_of_ne closing]

/-! ## Closing brackets -/

theorem unpaired_char (bare : c ≠ '\\') (t : Text) : unpaired (c :: t) = c :: unpaired t := by
  cases t <;> simp [unpaired, bare]

theorem Closes.whole (closes : Closes depth t) : Whole t := by
  induction closes with
  | nil => exact .nil
  | pair c _ ih => exact .pair c ih
  | opening _ ih => exact .char (by decide) ih
  | closing _ ih => exact .char (by decide) ih
  | char bare _ ih => exact .char (by simp_all) ih

theorem Closes.levelFrom (closes : Closes depth t) : LevelFrom depth (unpaired t) := by
  induction closes with
  | nil => exact levelFrom_nil.2 rfl
  | pair c _ ih => exact ih
  | opening _ ih => exact levelFrom_opening.2 ih
  | closing _ ih => exact levelFrom_closing.2 ih
  | char bare _ ih =>
    simp only [List.mem_cons, List.not_mem_nil, or_false, not_or] at bare
    obtain ⟨escape, opening, closing⟩ := bare
    rw [unpaired_char escape]
    exact (levelFrom_char opening closing).2 ih

theorem closes_iff : Closes depth t ↔ Whole t ∧ LevelFrom depth (unpaired t) := by
  refine ⟨fun closes => ⟨closes.whole, closes.levelFrom⟩, ?_⟩
  rintro ⟨whole, level⟩
  -- A text that ends in no lone backslash is read by pairs and single characters, whatever is open.
  induction whole generalizing depth with
  | nil => exact levelFrom_nil.1 level ▸ .nil
  | pair c _ ih => exact .pair c (ih level)
  | @char c t escape _ ih =>
    rw [unpaired_char escape] at level
    by_cases opening : c = '('
    · subst opening
      exact .opening (ih (levelFrom_opening.1 level))
    by_cases closing : c = ')'
    · subst closing
      cases depth with
      | zero => exact absurd level not_levelFrom_closing
      | succ depth => exact .closing (ih (levelFrom_closing.1 level))
    exact .char (by simp [escape, opening, closing]) (ih ((levelFrom_char opening closing).1 level))

theorem captureless_iff :
    Captureless t ↔ ∀ inner rest, t = inner ++ '(' :: rest → Whole inner → Silent rest := by
  simp only [← not_capturing_iff]
  constructor
  · exact fun none inner rest same whole capturing => none inner ⟨whole, rest, same, capturing⟩
  · rintro silent inner ⟨whole, rest, same, capturing⟩
    exact silent inner rest same whole capturing

/-! ## A fragment between brackets -/

/-- A bracket that is read as a fragment has it behind it. -/
theorem exists_fragmentFrom_of_scanFrom
    (scanned : scanFrom index bound ('(' :: t) = .ok (⟨index, .fragment f⟩ :: ls)) :
    ∃ behind, fragmentFrom index t = .ok (f, behind) := by
  rw [scanFrom] at scanned
  split at scanned
  · cases scanned
  · rename_i inside behind closed
    obtain ⟨later, -, same⟩ := bind_ok_eq_ok_iff.1 scanned
    simp only [List.cons.injEq, Lexeme.mk.injEq, Body.fragment.injEq, true_and] at same
    exact ⟨behind, same.1 ▸ closed⟩

theorem IsFragment.scan_eq (isFragment : IsFragment f) :
    scan ('(' :: f ++ [')']) = .ok [⟨0, .fragment f⟩, ⟨byteLength f + 2, .finish⟩] := by
  have begins : Begins [] false ('(' :: f ++ [')']) [.fragment f] := .fragment false isFragment
  have read := begins.scanFrom_eq 0
  rw [List.append_nil, byteLength_fragment, Nat.zero_add, Nat.add_comm 2, scanFrom] at read
  exact read

/-- Between brackets, a text is read as a fragment and nothing else just if it is filled, does not begin
with `?`, has a character behind each backslash, closes the brackets that it opens, and opens no group
that captures. -/
theorem scan_fragment_iff (t : Text) (last : Nat) :
    scan ('(' :: t ++ [')']) = .ok [⟨0, .fragment t⟩, ⟨last, .finish⟩] ↔
      (t ≠ [] ∧ t.head? ≠ some '?' ∧ Whole t ∧ LevelFrom 0 (unpaired t) ∧
        ∀ inner rest, t = inner ++ '(' :: rest → Whole inner → Silent rest) ∧
      last = byteLength t + 2 := by
  rw [← captureless_iff, ← and_assoc (a := Whole t), ← closes_iff]
  constructor
  · intro scanned
    obtain ⟨behind, read⟩ := exists_fragmentFrom_of_scanFrom scanned
    obtain ⟨isFragment, -⟩ := fragmentFrom_eq_ok_iff.1 read
    have same := isFragment.scan_eq.symm.trans scanned
    simp only [Except.ok.injEq, List.cons.injEq, Lexeme.mk.injEq, and_true, true_and] at same
    exact ⟨⟨isFragment.filled, isFragment.unmarked, isFragment.closes, isFragment.captureless⟩,
      same.symm⟩
  · rintro ⟨⟨filled, unmarked, closes, captureless⟩, rfl⟩
    exact IsFragment.scan_eq ⟨filled, unmarked, closes, captureless⟩

end RoutePattern.Lexeme
