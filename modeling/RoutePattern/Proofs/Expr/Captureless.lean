import RoutePattern.Proofs.Expr.Walk
import RoutePattern.Proofs.Expr.Within
import RoutePattern.Proofs.Lexeme.Bracket

/-! # Fragments open no groups

The scanning of a pattern refuses a fragment that holds a group that captures. It does not read the
fragment for that: it looks at brackets and backslashes alone. The reader of expressions takes fewer
brackets for groups, as some stand in sets and in comments, but it divides escapes in the same way
(`Walks.spans`). So where nothing captures at a look, nothing does when it is read
(`Body.groups_eq`), and this holds for every fragment between its brackets
(`groups_eq_of_isFragment`).
-/

namespace RoutePattern.Lexeme

variable {s t : Text} {c : Char}

theorem Whole.append (first : Whole s) (second : Whole t) : Whole (s ++ t) := by
  induction first with
  | nil => exact second
  | pair c _ ih => exact .pair c ih
  | char bare _ ih => exact .char bare ih

/-- A character that is no backslash ends what is before it, whether a backslash takes it or not. -/
theorem whole_concat (bare : c ≠ '\\') : ∀ s, Whole (s ++ [c])
  | [] => .char bare .nil
  | [d] => by
    by_cases escape : d = '\\'
    · exact escape ▸ .pair c .nil
    · exact .char escape (.char bare .nil)
  | d :: d' :: s => by
    by_cases escape : d = '\\'
    · exact escape ▸ .pair d' (whole_concat bare s)
    · exact .char escape (whole_concat bare (d' :: s))

theorem Captureless.behind (none : Captureless (s ++ t)) (whole : Whole s) : Captureless t := by
  rintro inner ⟨whole', rest, rfl, capturing⟩
  exact none (s ++ inner) ⟨whole.append whole', rest, by simp, capturing⟩

/-- The closing bracket behind a fragment makes no group of it. -/
theorem IsFragment.captureless_closed {f : Text} (isFragment : IsFragment f) :
    Captureless (f ++ [')']) := by
  rintro inner captures
  obtain ⟨-, rest, same, -⟩ := id captures
  refine isFragment.not_capturesAt captures ?_
  -- The bracket that opens is not the one that closes, so it stands in the fragment.
  rcases rest.eq_nil_or_concat with rfl | ⟨rest, c, rfl⟩
  · have last := congrArg List.getLast? same
    simp at last
  · have shape : inner ++ '(' :: rest.concat c = (inner ++ ['('] ++ rest).concat c := by simp
    rw [shape, ← List.concat_eq_append, List.concat_inj] at same
    exact ⟨rest, same.1.symm⟩

end RoutePattern.Lexeme

namespace RoutePattern.Expr.Reader

open Lexeme (Capturing Captureless IsFragment Whole)

variable {spaced : Bool} {spot spot' : Spot} {t u rest inner held : Text} {ctx ctx' : Context}
  {head : GroupHead}

/-- The rest of a text begins behind whole escapes. -/
def Spans (t rest : Text) : Prop := ∃ s, Whole s ∧ t = s ++ rest

theorem Spans.trans (first : Spans t u) (second : Spans u rest) : Spans t rest := by
  obtain ⟨s, whole, rfl⟩ := first
  obtain ⟨s', whole', rfl⟩ := second
  exact ⟨s ++ s', whole.append whole', (List.append_assoc s s' rest).symm⟩

theorem Spans.char {c : Char} (bare : c ≠ '\\') (t : Text) : Spans (c :: t) t :=
  ⟨[c], .char bare .nil, rfl⟩

theorem Spans.captureless (spans : Spans t rest) (none : Captureless t) : Captureless rest := by
  obtain ⟨s, whole, rfl⟩ := spans
  exact none.behind whole

/-- The reader cuts no escape in two on its way, if it does not lose the rest of the text in a line. -/
theorem Walks.spans (walks : Walks spaced spot t spot' rest) (open' : rest ≠ []) : Spans t rest := by
  induction walks with
  | done spot t => exact ⟨[], .nil, rfl⟩
  | escape c _ ih =>
    obtain ⟨s, whole, rfl⟩ := ih open'
    exact ⟨_, .pair c whole, rfl⟩
  | char plain _ _ ih => exact (Spans.char plain _).trans (ih open')
  | comment _ ih =>
    have mark : Whole ['(', '?', '#'] := .char (by simp) (.char (by simp) (.char (by simp) .nil))
    exact Spans.trans ⟨_, mark, rfl⟩ (ih open')
  | line _ s _ ih =>
    have line : Whole ('#' :: s ++ ['\n']) := Lexeme.whole_concat (by simp) ('#' :: s)
    exact Spans.trans ⟨_, line, by simp⟩ (ih open')
  | lastLine => exact absurd rfl open'
  | enter _ _ _ _ ih => exact ih open'

theorem Spans.ne_nil (spans : Spans t rest) (open' : rest ≠ []) : t ≠ [] := by
  obtain ⟨s, -, rfl⟩ := spans
  exact List.append_ne_nil_of_right_ne_nil s open'

theorem spans_skip {flags : Flags} (skipped : skip flags t = some rest) (open' : rest ≠ []) :
    Spans t rest := by
  have walks : Walks true .outside t .outside rest := walks_skip (fun _ => rfl) skipped
  exact walks.spans open'

theorem spans_readRepetition {flags : Flags} {times : Option Repetition}
    (read : readRepetition flags t = some (times, rest)) (open' : rest ≠ []) : Spans t rest := by
  have walks : Walks true .outside t .outside rest := walks_readRepetition (fun _ => rfl) read
  exact walks.spans open'

/-! ## Kinds of groups -/

theorem capturing_of_readGroupHead {name : Option Text}
    (read : readGroupHead ctx ('?' :: t) = some (.capture name, held)) : Capturing ('?' :: t) := by
  unfold readGroupHead at read
  split at read
  -- The two forms of a named group; no other kind captures.
  case h_5 =>
    rename_i notBehind notNotBehind same
    cases same
    refine .named (fun first => ?_) (fun first => ?_)
    · obtain ⟨u, rfl⟩ := List.head?_eq_some_iff.1 first
      exact notBehind u rfl
    · obtain ⟨u, rfl⟩ := List.head?_eq_some_iff.1 first
      exact notNotBehind u rfl
  case h_6 =>
    rename_i same
    cases same
    exact .marked _
  case h_7 =>
    obtain ⟨found, -, referred⟩ := Option.bind_eq_some_iff.1 read
    obtain ⟨n, -, same⟩ := Option.map_eq_some_iff.1 referred
    cases same
  case h_9 =>
    obtain ⟨-, plain, -⟩ := walks_readFlags (fun _ => rfl) (.inl rfl) read
    exact absurd rfl (plain name)
  case h_10 =>
    rename_i flags
    exact absurd rfl (flags t)
  all_goals cases read

/-- A group that does not capture at a look does not capture, and its mark is run over. -/
theorem walks_opened (bare : ¬Capturing inner)
    (opened : (skip ctx.flags inner).bind (readGroupHead ctx) = some (head, held)) :
    (∀ name, head ≠ .capture name) ∧ Walks true .outside inner .outside held := by
  have marked : inner.head? = some '?' := by
    by_contra unmarked
    exact bare (.plain unmarked)
  obtain ⟨t, rfl⟩ : ∃ t, inner = '?' :: t := List.head?_eq_some_iff.1 marked
  obtain ⟨u, skipped, read⟩ := Option.bind_eq_some_iff.1 opened
  obtain rfl : '?' :: t = u := by simpa [skip, skipBlank, isBlank] using skipped
  refine ⟨?_, (walks_readGroupHead (fun _ => rfl) (.inl rfl) read).1⟩
  rintro name rfl
  exact bare (capturing_of_readGroupHead read)

/-! ## Groups -/

theorem Body.ne_nil {depth : Nat} {parts earlier : List Expr} {e : Expr}
    (body : Body ctx depth parts earlier t e ctx' rest) (open' : rest ≠ []) : t ≠ [] := by
  rintro rfl
  exact open' (lost_nil ctx.flags rfl body)

/-- The way over the bracket and the mark of a group, which does not capture. -/
theorem spans_opening (none : Captureless t) (skipped : skip ctx.flags t = some ('(' :: inner))
    (opened : (skip ctx.flags inner).bind (readGroupHead ctx) = some (head, held))
    (held' : held ≠ []) : (∀ name, head ≠ .capture name) ∧ Spans t held := by
  have bracket : Spans t ('(' :: inner) := spans_skip skipped (List.cons_ne_nil _ _)
  obtain ⟨bare, -⟩ := Lexeme.captureless_opening.1 (bracket.captureless none)
  obtain ⟨plain, walks⟩ := walks_opened bare opened
  exact ⟨plain, (bracket.trans (.char (by simp) inner)).trans (walks.spans held')⟩

theorem enter_groups (ctx : Context) (plain : ∀ name, head ≠ .capture name) :
    (enter ctx head).groups = ctx.groups := by
  cases head with
  | capture name => exact absurd rfl (plain name)
  | _ => rfl

/-- Where nothing captures at a look, no group is opened. -/
theorem Body.groups_eq {depth : Nat} {parts earlier : List Expr} {e : Expr}
    (body : Body ctx depth parts earlier t e ctx' rest) (none : Captureless t) (open' : rest ≠ []) :
    ctx'.groups = ctx.groups ∧ Spans t rest := by
  induction body with
  | finish skipped => exact ⟨rfl, spans_skip skipped open'⟩
  | @bar _ _ _ _ _ t t' _ _ skipped _ ih =>
    have bar : Spans t t' :=
      (spans_skip skipped (List.cons_ne_nil _ _)).trans (.char (by simp) t')
    obtain ⟨groups, spans⟩ := ih (bar.captureless none) open'
    exact ⟨groups, bar.trans spans⟩
  | setting skipped _ opened counted more ih =>
    have counts := spans_readRepetition counted (more.ne_nil open')
    obtain ⟨-, opening⟩ := spans_opening none skipped opened (counts.ne_nil (more.ne_nil open'))
    have next := opening.trans counts
    obtain ⟨groups, spans⟩ := ih (next.captureless none) open'
    exact ⟨groups, next.trans spans⟩
  | reference skipped _ opened counted _ more ih =>
    have counts := spans_readRepetition counted (more.ne_nil open')
    obtain ⟨-, opening⟩ := spans_opening none skipped opened (counts.ne_nil (more.ne_nil open'))
    have next := opening.trans counts
    obtain ⟨groups, spans⟩ := ih (next.captureless none) open'
    exact ⟨groups, next.trans spans⟩
  | @group ctx inside _ _ _ _ _ _ _ behind _ _ _ _ _ head _ skipped _ opened _ body counted _ more within
      outer =>
    have closing : ')' :: behind ≠ [] := List.cons_ne_nil _ _
    obtain ⟨plain, opening⟩ := spans_opening none skipped opened (body.ne_nil closing)
    obtain ⟨held, inner⟩ := within (opening.captureless none) closing
    have closed := (opening.trans inner).trans (.char (by simp) behind)
    have next := closed.trans (spans_readRepetition counted (more.ne_nil open'))
    obtain ⟨groups, spans⟩ := outer (next.captureless none) open'
    refine ⟨?_, next.trans spans⟩
    rw [groups, leave_groups, held, enter_groups ctx plain]
  | @atom _ _ _ _ _ _ t _ _ next _ _ _ _ _ skipped opens read counted _ more ih =>
    have walks : Walks true .outside t .outside next :=
      ((walks_skip (fun _ => rfl) skipped).trans (walks_readAtom opens read)).trans
        (walks_readRepetition (fun _ => rfl) counted)
    have next := walks.spans (more.ne_nil open')
    obtain ⟨groups, spans⟩ := ih (next.captureless none) open'
    exact ⟨groups.trans (readAtom_groups read), next.trans spans⟩

/-- No group is opened by a fragment that is read up to the bracket behind it. -/
theorem groups_eq_of_isFragment {f : Text} (isFragment : IsFragment f) {depth : Nat}
    {parts earlier : List Expr} {e : Expr}
    (body : Body ctx depth parts earlier (f ++ [')']) e ctx' [')']) : ctx'.groups = ctx.groups :=
  (body.groups_eq isFragment.captureless_closed (List.cons_ne_nil _ _)).1

end RoutePattern.Expr.Reader
