import Mathlib.Data.List.Basic
import RoutePattern.Text.Split

/-! # Splitting undoes joining

A text that was joined from parts is split into these parts again, if no part holds any of certain
characters and the separator holds one of them (`splitRun_intercalate`). The separator may overlap
itself: its first such character tells where it stands. A text that was split is joined again whatever
the separator (`intercalate_splitRun`), which then occurs in none of the parts
(`not_infix_of_mem_splitRun`).
-/

namespace RoutePattern.Text

variable {P : Char → Prop} {head : Char} {tail t v : Text}

/-- The first of certain characters stands at one place only. -/
theorem firstMark_unique {s s' t t' : Text} {c c' : Char} (clear : ∀ d ∈ s, ¬P d)
    (clear' : ∀ d ∈ s', ¬P d) (mark : P c) (mark' : P c') (same : s ++ c :: t = s' ++ c' :: t') :
    s = s' := by
  induction s generalizing s' with
  | nil =>
    cases s' with
    | nil => rfl
    | cons d s' =>
      obtain ⟨rfl, -⟩ := List.cons.inj same
      exact absurd mark (clear' c List.mem_cons_self)
  | cons d s ih =>
    cases s' with
    | nil =>
      obtain ⟨rfl, -⟩ := List.cons.inj same
      exact absurd mark' (clear d List.mem_cons_self)
    | cons d' s' =>
      obtain ⟨rfl, rest⟩ := List.cons.inj same
      rw [ih (fun e member => clear e (List.mem_cons_of_mem d member))
        (fun e member => clear' e (List.mem_cons_of_mem d member)) rest]

/-- A text with one of certain characters, divided at the first of them. -/
theorem exists_firstMark (marked : ∃ c ∈ t, P c) :
    ∃ before c behind, t = before ++ c :: behind ∧ (∀ d ∈ before, ¬P d) ∧ P c := by
  induction t with
  | nil => simp at marked
  | cons d t ih =>
    by_cases here : P d
    · exact ⟨[], d, t, rfl, by simp, here⟩
    · have later : ∃ c ∈ t, P c := by simpa [here] using marked
      obtain ⟨before, c, behind, rfl, clear, mark⟩ := ih later
      exact ⟨d :: before, c, behind, rfl, by simpa [here] using clear, mark⟩

theorem splitFirst_append {c : Char} {before : Text} (clear : c ∉ before) (behind : Text) :
    splitFirst c (before ++ c :: behind) = (before, some behind) := by
  induction before with
  | nil => simp [splitFirst]
  | cons d before ih =>
    rw [List.mem_cons, not_or] at clear
    rw [List.cons_append, splitFirst, if_neg (Ne.symm clear.1), ih clear.2]

theorem splitFirst_of_not_mem {c : Char} (absent : c ∉ t) : splitFirst c t = (t, none) := by
  induction t with
  | nil => rfl
  | cons d t ih =>
    rw [List.mem_cons, not_or] at absent
    rw [splitFirst, if_neg (Ne.symm absent.1), ih absent.2]

/-- A separator does not start within a part that another one follows. -/
theorem dropHead?_within (nonempty : v ≠ []) (clear : ∀ c ∈ v, ¬P c)
    {separator : Text} (marked : ∃ c ∈ separator, P c) (rest : Text) :
    dropHead? separator (v ++ separator ++ rest) = none := by
  rw [Option.eq_none_iff_forall_not_mem]
  intro behind found
  have same := dropHead?_eq_some.1 found
  obtain ⟨first, c, last, rfl, before, mark⟩ := exists_firstMark marked
  -- The first mark of the text stands behind the part and, if a separator starts here, within it.
  have clearFront : ∀ d ∈ v ++ first, ¬P d := by
    intro d member
    rcases List.mem_append.1 member with part | front
    · exact clear d part
    · exact before d front
  have shape : (v ++ first) ++ c :: (last ++ rest) = first ++ c :: (last ++ behind) := by
    simpa using same
  have fronts := firstMark_unique clearFront before mark mark shape
  exact nonempty (by simpa using fronts)

theorem splitOn_part (clear : ∀ c ∈ v, ¬P c) (marked : ∃ c ∈ head :: tail, P c) (rest : Text) :
    splitOn head tail (v ++ (head :: tail) ++ rest) = v :: splitOn head tail rest := by
  induction v with
  | nil =>
    rw [List.nil_append, List.cons_append, splitOn]
    split
    · rename_i behind found
      have same := dropHead?_eq_some.1 found
      rw [← List.cons_append, List.append_cancel_left_eq] at same
      rw [same]
    · rename_i none
      have found : dropHead? (head :: tail) (head :: (tail ++ rest)) = some rest :=
        dropHead?_eq_some.2 rfl
      rw [none] at found
      cases found
  | cons c v ih =>
    have none := dropHead?_within (List.cons_ne_nil c v) clear marked rest
    simp only [List.cons_append] at none ih ⊢
    rw [splitOn]
    split
    · rename_i behind found
      rw [none] at found
      cases found
    · rw [ih fun d member => clear d (List.mem_cons_of_mem c member)]
      rfl

theorem splitOn_last (clear : ∀ c ∈ v, ¬P c) (marked : ∃ c ∈ head :: tail, P c) :
    splitOn head tail v = [v] := by
  induction v with
  | nil => rw [splitOn]
  | cons c v ih =>
    rw [splitOn]
    split
    · rename_i behind found
      obtain ⟨d, member, mark⟩ := marked
      have same := dropHead?_eq_some.1 found
      exact absurd mark (clear d (by rw [same]; exact List.mem_append_left behind member))
    · rw [ih fun d member => clear d (List.mem_cons_of_mem c member)]
      rfl

/-- The parts of a run that was joined from them. -/
theorem splitRun_intercalate {separator : Text} {parts : List Text} (nonempty : parts ≠ [])
    (clear : ∀ v ∈ parts, ∀ c ∈ v, ¬P c) (marked : ∃ c ∈ separator, P c) :
    splitRun separator (separator.intercalate parts) = parts := by
  obtain ⟨head, tail, rfl⟩ : ∃ head tail, separator = head :: tail := by
    cases separator with
    | nil => simp at marked
    | cons head tail => exact ⟨head, tail, rfl⟩
  simp only [splitRun]
  induction parts with
  | nil => exact absurd rfl nonempty
  | cons v parts ih =>
    have here := clear v List.mem_cons_self
    -- Only the last part has no separator behind it.
    cases parts with
    | nil => simpa using splitOn_last here marked
    | cons v' parts =>
      have later := ih (List.cons_ne_nil v' parts) fun w member =>
        clear w (List.mem_cons_of_mem v member)
      rw [List.intercalate_cons_cons, splitOn_part here marked, later]

theorem nil_intercalate (parts : List Text) : ([] : Text).intercalate parts = parts.flatten := by
  induction parts with
  | nil => rfl
  | cons v parts ih =>
    cases parts with
    | nil => simp
    | cons v' parts =>
      rw [List.intercalate_cons_cons, ih]
      simp

theorem prefix_intercalate (separator first : Text) (parts : List Text) :
    first <+: separator.intercalate (first :: parts) := by
  cases parts with
  | nil => simp
  | cons v parts =>
    rw [List.intercalate_cons_cons, List.append_assoc]
    exact List.prefix_append first _

/-- The separator does not occur in a part: it would have been found there first. -/
theorem not_infix_of_mem_splitOn {part : Text} (member : part ∈ splitOn head tail t) :
    ¬head :: tail <:+: part := by
  fun_induction splitOn head tail t generalizing part with
  | case1 => simp [List.mem_singleton.1 member]
  | case2 c t rest found ih =>
    rcases List.mem_cons.1 member with rfl | later
    · simp
    · exact ih later
  | case3 c t none ih =>
    obtain ⟨first, parts, split⟩ := List.exists_cons_of_ne_nil (splitOn_ne_nil head tail t)
    rw [split, List.modifyHead_cons, List.mem_cons] at member
    rw [split] at ih
    rcases member with rfl | later
    · -- The first part goes on from here, where no separator starts.
      have ahead : c :: first <+: c :: t := by
        rw [List.prefix_cons_inj, ← intercalate_splitOn head tail t, split]
        exact prefix_intercalate _ first parts
      rw [List.infix_cons_iff, not_or]
      refine ⟨fun here => ?_, ih List.mem_cons_self⟩
      obtain ⟨rest, same⟩ := here.trans ahead
      rw [dropHead?_eq_some.2 same.symm] at none
      cases none
    · exact ih (List.mem_cons_of_mem first later)

theorem not_infix_of_mem_splitRun {separator part : Text} (filled : separator ≠ [])
    (member : part ∈ splitRun separator t) : ¬separator <:+: part := by
  cases separator with
  | nil => exact absurd rfl filled
  | cons head tail => exact not_infix_of_mem_splitOn member

/-- Whatever the separator, the parts of a text joined again are the text. -/
theorem intercalate_splitRun (separator t : Text) :
    separator.intercalate (splitRun separator t) = t := by
  cases separator with
  | nil =>
    rw [nil_intercalate, splitRun]
    exact List.flatMap_singleton' t
  | cons head tail => exact intercalate_splitOn head tail t

/-- Parts each of which stands between two texts, if one of these is empty, are a run between them
whose separator is the other one. -/
theorem flatten_between {lead trail : Text} (oneSided : lead = [] ∨ trail = []) {parts : List Text}
    (nonempty : parts ≠ []) :
    (parts.map fun v => lead ++ v ++ trail).flatten =
      lead ++ (lead ++ trail).intercalate parts ++ trail := by
  induction parts with
  | nil => exact absurd rfl nonempty
  | cons v parts ih =>
    cases parts with
    | nil => simp
    | cons v' parts =>
      have later := ih (List.cons_ne_nil v' parts)
      rw [List.map_cons, List.flatten_cons, later, List.intercalate_cons_cons]
      rcases oneSided with rfl | rfl <;> simp

end RoutePattern.Text
