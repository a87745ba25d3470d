import RoutePattern.CharSet.Bracket
import RoutePattern.Proofs.CaseFold

/-! # Bracketed sets of plain items

A bracket whose symbols are all `inert`, which excludes the brackets, `^`, `-` and the operators, holds
what one of its items holds, up to case where the notation is `relaxed`.
-/

namespace RoutePattern.CharSet

open Unicode (fold orbit)

/-- The set that holds what one of the items holds. -/
def anyOf (items : List CharSet) : CharSet := items.foldl .union .empty

section Has

variable {c d : Char} {s : CharSet} {items : List CharSet}

theorem has_foldl_union (s : CharSet) :
    (items.foldl .union s).has c = (s.has c || items.any (·.has c)) := by
  induction items generalizing s with
  | nil => simp
  | cons item items ih => simp [ih, has, Bool.or_assoc]

theorem has_anyOf : (anyOf items).has c = items.any (·.has c) := by
  simp [anyOf, has_foldl_union, has]

theorem anyOf_ne_single (items : List CharSet) (d : Char) : anyOf items ≠ single d := by
  rcases items.eq_nil_or_concat with rfl | ⟨front, last, rfl⟩ <;> simp [anyOf]

/-- A set up to case holds what a member of it folds to. -/
theorem has_relaxed_anyOf :
    (relax true (anyOf items)).has c = true ↔ ∃ d, fold d = fold c ∧ ∃ s ∈ items, s.has d = true := by
  have unfolded : (relax true (anyOf items)).has c = (orbit c).any (anyOf items).has := by
    simp only [relax, if_true]
    cases shape : anyOf items with
    | single d => exact absurd shape (anyOf_ne_single items d)
    | _ => rfl
  simp only [unfolded, List.any_eq_true, has_anyOf]
  exact exists_congr fun d => and_congr_left fun _ => Unicode.mem_orbit

theorem has_literal (relaxed : Bool) :
    (literal relaxed d).has c = true ↔ c = d ∨ relaxed = true ∧ fold c = fold d := by
  cases relaxed with
  | false => simp [literal, has]
  | true =>
    simp only [literal, if_true, has, true_and, Unicode.sameUpToCase_iff]
    constructor
    · exact .inr
    · rintro (rfl | same)
      · rfl
      · exact same

/-- The characters of a text as items. -/
theorem has_relax_singles (relaxed : Bool) (t : List Char) :
    (relax relaxed (anyOf (t.map single))).has c = true ↔
      ∃ d ∈ t, (literal relaxed d).has c = true := by
  cases relaxed with
  | false => simp [relax, has_anyOf, literal, has]
  | true =>
    simp only [has_relaxed_anyOf, has_literal, List.mem_map, true_and]
    constructor
    · rintro ⟨d, same, _, ⟨e, member, rfl⟩, held⟩
      obtain rfl : d = e := by simpa [has] using held
      exact ⟨d, member, .inr same.symm⟩
    · rintro ⟨d, member, rfl | same⟩
      · exact ⟨c, rfl, single c, ⟨c, member, rfl⟩, by simp [has]⟩
      · exact ⟨d, same.symm, single d, ⟨d, member, rfl⟩, by simp [has]⟩

/-- Where letters match in their own case only, the characters of a text as items hold no others. -/
theorem has_singles (t : List Char) (c : Char) :
    (relax false (anyOf (t.map single))).has c = decide (c ∈ t) := by
  rw [Bool.eq_iff_iff, has_relax_singles, decide_eq_true_iff]
  simp [has_literal]

end Has

namespace Bracket

/-- A symbol that stands for its own item wherever it is. -/
def inert : Symbol → Bool
  | .plain c => !(['[', ']', '^', '-', '&', '~'].contains c)
  | .literal _ | .set _ => true

variable {relaxed : Bool} {s : Symbol} {ss : List Symbol}

theorem item?_inert (first : Symbol) (silent : ∀ s ∈ ss, inert s = true) :
    item? first (ss ++ [.plain ']']) = some (itemOf first, 0) := by
  cases ss with
  | nil => rfl
  | cons s ss =>
    -- The next symbol is no `-`, so the first one does not open a range.
    have here := silent s List.mem_cons_self
    unfold item?
    split <;> simp_all [inert]

theorem step?_inert (top : Frame) (silent : ∀ x ∈ s :: ss, inert x = true) :
    step? relaxed top [] s (ss ++ [.plain ']']) = some (.more 0 (top.add (itemOf s)) []) := by
  have here := silent s List.mem_cons_self
  have later : ∀ x ∈ ss, inert x = true := fun x member => silent x (List.mem_cons_of_mem _ member)
  have item := item?_inert s later
  unfold step?
  cases s with
  | plain c =>
    simp only [inert, List.contains_cons, List.contains_nil, Bool.or_false, Bool.not_eq_true',
      Bool.or_eq_false_iff, beq_eq_false_iff_ne] at here
    simp [here, item]
  | literal c | set s => simp [item]

theorem readRest_inert (top : Frame) (silent : ∀ s ∈ ss, inert s = true) :
    readRest relaxed 0 top [] (ss ++ [.plain ']']) =
      some (Frame.close { top with items := (ss.map itemOf).foldl .union top.items } relaxed,
        []) := by
  induction ss generalizing top with
  | nil => rfl
  | cons s ss ih =>
    have later : ∀ s ∈ ss, inert s = true := fun s member => silent s (List.mem_cons_of_mem _ member)
    rw [List.cons_append, readRest, step?_inert top silent]
    exact ih (top.add (itemOf s)) later

theorem openFrame_inert (silent : ∀ s ∈ ss, inert s = true) (nonempty : ss ≠ []) :
    openFrame (ss ++ [.plain ']']) = (⟨false, none, .empty⟩, 0) ∧
      openFrame (.plain '^' :: ss ++ [.plain ']']) = (⟨true, none, .empty⟩, 1) := by
  cases ss with
  | nil => exact absurd rfl nonempty
  | cons s ss =>
    have here := silent s List.mem_cons_self
    cases s with
    | plain c =>
      simp only [inert, List.contains_cons, List.contains_nil, Bool.or_false, Bool.not_eq_true',
        Bool.or_eq_false_iff, beq_eq_false_iff_ne] at here
      simp [openFrame, here]
    | literal c | set s => simp [openFrame]

theorem read?_inert (relaxed : Bool) (silent : ∀ s ∈ ss, inert s = true) (nonempty : ss ≠ []) :
    read? relaxed (.plain '[' :: (ss ++ [.plain ']'])) =
      some (relax relaxed (anyOf (ss.map itemOf))) := by
  rw [read?, (openFrame_inert silent nonempty).1]
  simp only [readRest_inert _ silent]
  rfl

theorem read?_inert_negated (relaxed : Bool) (silent : ∀ s ∈ ss, inert s = true)
    (nonempty : ss ≠ []) :
    read? relaxed (.plain '[' :: .plain '^' :: (ss ++ [.plain ']'])) =
      some (.compl (relax relaxed (anyOf (ss.map itemOf)))) := by
  rw [read?, ← List.cons_append, (openFrame_inert silent nonempty).2]
  simp only [List.cons_append, readRest, readRest_inert _ silent]
  rfl

end Bracket

end RoutePattern.CharSet
