import RoutePattern.Text

/-! # Splitting texts

Texts divided at a character or at a longer separator. The parts with the separator between them are
the text again.
-/

namespace RoutePattern.Text

/-- The text before the first `c` and, if there is one, the text behind it. -/
def splitFirst (c : Char) : Text → Text × Option Text
  | [] => ([], none)
  | d :: t =>
    if d = c then ([], some t)
    else
      let (before, behind) := splitFirst c t
      (d :: before, behind)

/-- The parts of a text between the occurrences of the separator `head :: tail`, from the left. -/
def splitOn (head : Char) (tail : Text) : Text → List Text
  | [] => [[]]
  | c :: t =>
    match _split : dropHead? (head :: tail) (c :: t) with
    | some rest => [] :: splitOn head tail rest
    | none => (splitOn head tail t).modifyHead (c :: ·)
termination_by t => t.length
decreasing_by
  all_goals grind [dropHead?_eq_some]

/-- The parts of a text between the occurrences of a separator; its characters where the separator
is empty. -/
def splitRun (separator t : Text) : List Text :=
  match separator with
  | [] => t.map fun c => [c]
  | head :: tail => splitOn head tail t

theorem splitOn_ne_nil (head : Char) (tail t : Text) : splitOn head tail t ≠ [] := by
  fun_induction splitOn head tail t with
  | case1 => simp
  | case2 => simp
  | case3 c t _ ih =>
    obtain ⟨part, parts, found⟩ := List.exists_cons_of_ne_nil ih
    simp [found]

theorem intercalate_splitOn (head : Char) (tail t : Text) :
    (head :: tail).intercalate (splitOn head tail t) = t := by
  fun_induction splitOn head tail t with
  | case1 => simp
  | case2 c t rest found ih =>
    obtain ⟨part, parts, split⟩ := List.exists_cons_of_ne_nil (splitOn_ne_nil head tail rest)
    rw [dropHead?_eq_some.1 found]
    rw [split] at ih ⊢
    simp [List.intercalate, List.intersperse, ← ih]
  | case3 c t _ ih =>
    obtain ⟨part, parts, split⟩ := List.exists_cons_of_ne_nil (splitOn_ne_nil head tail t)
    rw [split] at ih ⊢
    cases parts with
    | nil => simpa [List.intercalate] using ih
    | cons next parts => simpa [List.intercalate, List.intersperse] using ih

end RoutePattern.Text
