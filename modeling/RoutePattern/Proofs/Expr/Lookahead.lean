import RoutePattern.Proofs.Expr.Body

/-! # How far reading looks ahead

What is skipped, and counts behind what they count, are found in the same way whatever stands behind
them (`skip_append`, `readRepetition_append`). Counts that fail look further ahead than what is read;
if they run into a comment that is not closed, then so does the reading itself, and nothing is left of
the text (`Swallowed.lost`).
-/

namespace RoutePattern.Expr.Reader

variable {flags : Flags} {t rest : Text}

/-! ## Skipping -/

/-- The text is at its end, or at what may be the start of a comment. -/
def isCut : Text → Bool
  | [] | ['('] | ['(', '?'] => true
  | _ => false

/-- Text behind does not make a comment of what is not cut off. -/
theorem notComment_append {c : Char} {more : Text}
    (notComment : ∀ u, c = '(' → t = '?' :: '#' :: u → False) (whole : isCut (c :: t) = false) :
    ∀ u, c = '(' → t ++ more = '?' :: '#' :: u → False := by
  rintro u rfl comment
  match t with
  | [] | ['?'] => cases whole
  | a :: b :: t =>
    simp only [List.cons_append, List.cons.injEq] at comment
    obtain ⟨rfl, rfl, -⟩ := comment
    exact notComment t rfl rfl

theorem skipBlank_append {spaced : Bool} {blank : Blank}
    (skipped : skipBlank spaced blank t = some rest) (whole : isCut rest = false) (more : Text) :
    skipBlank spaced blank (t ++ more) = some (rest ++ more) := by
  fun_induction skipBlank spaced blank t with
  | case1 t ih | case5 t ih | case8 t ih => simpa [skipBlank] using ih skipped
  | case2 c t notComment isBlank ih =>
    have other : c ≠ '(' := by
      rintro rfl
      simp [Reader.isBlank] at isBlank
    rw [List.cons_append, skipBlank, if_pos isBlank]
    · exact ih skipped
    · exact fun u same => absurd same other
  | case3 c t notComment notBlank isHash ih =>
    have other : c ≠ '(' := by
      rintro rfl
      simp at isHash
    rw [List.cons_append, skipBlank, if_neg notBlank, if_pos isHash]
    · exact ih skipped
    · exact fun u same => absurd same other
  | case4 c t notComment notBlank notHash =>
    obtain rfl := Option.some.inj skipped
    rw [List.cons_append, skipBlank, if_neg notBlank, if_neg notHash]
    exact notComment_append notComment whole
  | case6 c t ih => simpa [skipBlank] using ih skipped
  | case7 c t notClosing notEscape ih =>
    cases t with
    | nil => cases skipped
    | cons d t =>
      rw [List.cons_append, skipBlank]
      · exact ih skipped
      · exact notClosing
      · intro d' u same following
        exact notEscape d t same rfl
  | case9 c t notEnd ih =>
    rw [List.cons_append, skipBlank]
    · exact ih skipped
    · exact notEnd
  | case10 => cases skipped
  | case11 | case12 =>
    obtain rfl := Option.some.inj skipped
    cases whole

theorem skipBlank_skipBlank {spaced : Bool} {blank : Blank}
    (skipped : skipBlank spaced blank t = some rest) :
    skipBlank spaced .outside rest = some rest := by
  fun_induction skipBlank spaced blank t with
  | case1 t ih | case5 t ih | case8 t ih => exact ih skipped
  | case2 c t notComment isBlank ih => exact ih skipped
  | case3 c t notComment isBlank isHash ih => exact ih skipped
  | case4 c t notComment notBlank notHash =>
    obtain rfl := Option.some.inj skipped
    rw [skipBlank, if_neg notBlank, if_neg notHash]
    exact notComment
  | case6 c t ih => exact ih skipped
  | case7 c t notClosing notEscape ih => exact ih skipped
  | case9 c t notEnd ih => exact ih skipped
  | case10 => cases skipped
  | case11 | case12 =>
    obtain rfl := Option.some.inj skipped
    rfl

theorem skip_append (skipped : skip flags t = some rest) (whole : isCut rest = false) (more : Text) :
    skip flags (t ++ more) = some (rest ++ more) := skipBlank_append skipped whole more

theorem skip_skip (skipped : skip flags t = some rest) : skip flags rest = some rest :=
  skipBlank_skipBlank skipped

/-- Only what is not skipped counts. -/
theorem Body.of_skip {ctx ctx' : Context} {depth : Nat} {parts earlier : List Expr} {t t' : Text}
    {e : Expr} (body : Body ctx depth parts earlier t e ctx' rest)
    (same : skip ctx.flags t = skip ctx.flags t') : Body ctx depth parts earlier t' e ctx' rest := by
  cases body with
  | finish skipped closing unmixed => exact .finish (same ▸ skipped) closing unmixed
  | bar skipped others => exact .bar (same ▸ skipped) others
  | setting skipped shallow opened counted more =>
    exact .setting (same ▸ skipped) shallow opened counted more
  | reference skipped shallow opened counted applied more =>
    exact .reference (same ▸ skipped) shallow opened counted applied more
  | group skipped shallow opened encloses body counted applied more =>
    exact .group (same ▸ skipped) shallow opened encloses body counted applied more
  | atom skipped opens read counted applied more =>
    exact .atom (same ▸ skipped) opens read counted applied more

/-- What is read is skipped to first. -/
theorem Body.skipped {ctx ctx' : Context} {depth : Nat} {parts earlier : List Expr} {t : Text}
    {e : Expr} (body : Body ctx depth parts earlier t e ctx' rest) :
    ∃ u, skip ctx.flags t = some u := by
  cases body with
  | finish skipped | bar skipped | setting skipped | reference skipped | group skipped
  | atom skipped => exact ⟨_, skipped⟩

/-! ## Texts that nothing is left of -/

/-- No reading of the text stops before its end. -/
def Lost (flags : Flags) (t : Text) : Prop :=
  ∀ ⦃ctx ctx' : Context⦄ ⦃depth : Nat⦄ ⦃parts earlier : List Expr⦄ ⦃e : Expr⦄ ⦃rest : Text⦄,
    ctx.flags = flags → Body ctx depth parts earlier t e ctx' rest → rest = []

theorem Lost.of_skip {t' : Text} (lost : Lost flags t') (skipped : skip flags t = some t') :
    Lost flags t := by
  rintro ctx ctx' depth parts earlier e rest rfl body
  exact lost rfl (body.of_skip (skipped.trans (skip_skip skipped).symm))

theorem Lost.behind {t' : Text} (lost : Lost flags t) (skipped : skip flags t = some t') :
    Lost flags t' := by
  rintro ctx ctx' depth parts earlier e rest rfl body
  exact lost rfl (body.of_skip ((skip_skip skipped).trans skipped.symm))

theorem lost_nil (flags : Flags) : Lost flags [] := by
  rintro ctx ctx' depth parts earlier e rest rfl body
  have none : skip ctx.flags [] = some [] := rfl
  cases body with
  | finish skipped => exact (Option.some.inj (skipped.symm.trans none))
  | bar skipped | setting skipped | reference skipped | group skipped =>
    cases skipped.symm.trans none
  | atom skipped opens =>
    obtain rfl := Option.some.inj (skipped.symm.trans none)
    cases opens

/-- Nothing can be read behind a bracket that is cut off. -/
theorem lost_cut (cut : isCut t = true) : Lost flags t := by
  rintro ctx ctx' depth parts earlier e rest rfl body
  have shape : t = [] ∨ ∃ u, (u = [] ∨ u = ['?']) ∧ t = '(' :: u := by
    unfold isCut at cut
    split at cut <;> simp_all
  obtain rfl | ⟨u, ends, rfl⟩ := shape
  · exact lost_nil _ rfl body
  · have itself : skip ctx.flags ('(' :: u) = some ('(' :: u) := by
      obtain rfl | rfl := ends <;> simp [skip, skipBlank, isBlank]
    have opens : (skip ctx.flags u).bind (readGroupHead ctx) = none ∨
        (skip ctx.flags u).bind (readGroupHead ctx) = some (.capture none, []) := by
      obtain rfl | rfl := ends
      · exact .inr rfl
      · exact .inl (by simp [skip, skipBlank, isBlank, readGroupHead, readFlags])
    cases body with
    | finish skipped closing =>
      obtain rfl := Option.some.inj (skipped.symm.trans itself)
      cases closing
    | bar skipped => cases skipped.symm.trans itself
    | setting skipped shallow opened | reference skipped shallow opened =>
      obtain ⟨-, rfl⟩ := List.cons.inj (Option.some.inj (skipped.symm.trans itself))
      rw [opened] at opens
      simp at opens
    | group skipped shallow opened encloses inside =>
      obtain ⟨-, rfl⟩ := List.cons.inj (Option.some.inj (skipped.symm.trans itself))
      rw [opened] at opens
      obtain ⟨rfl, rfl⟩ : _ = GroupHead.capture none ∧ _ = ([] : Text) := by simpa using opens
      cases lost_nil _ rfl inside
    | atom skipped starts =>
      obtain rfl := Option.some.inj (skipped.symm.trans itself)
      cases starts

/-! ## Counts that fail

A `{` stands for itself where no counts follow it. To see that, digits and commas are read ahead. -/

def isCountChar (c : Char) : Bool := Text.Decimal.isDigit c || c == ','

theorem skip_countChar {c : Char} (count : isCountChar c = true) (t : Text) :
    skip flags (c :: t) = some (c :: t) := by
  have other : c ≠ '(' ∧ c ≠ '#' ∧ isBlank c = false := by
    refine ⟨?_, ?_, ?_⟩
    · rintro rfl
      cases count
    · rintro rfl
      cases count
    · by_contra blank
      simp only [isBlank, Bool.not_eq_false, Bool.or_eq_true, beq_iff_eq] at blank
      obtain ((rfl | rfl) | rfl) | rfl := blank <;> cases count
  rw [skip, skipBlank]
  · simp [other]
  · exact fun u same => absurd same other.1

/-- Behind digits and commas the text is cut off, or goes on with a comment that is not closed. -/
inductive Swallowed (flags : Flags) : Text → Prop
  | cut {t : Text} (cut : ∀ u, skip flags t = some u → isCut u = true) : Swallowed flags t
  | counted {t behind : Text} {c : Char} (skipped : skip flags t = some (c :: behind))
      (count : isCountChar c = true) (swallowed : Swallowed flags behind) : Swallowed flags t

theorem Swallowed.of_skip {t' : Text} (swallowed : Swallowed flags t')
    (skipped : skip flags t = some t') : Swallowed flags t := by
  have same := skip_skip skipped
  cases swallowed with
  | cut cut =>
    refine .cut fun u found => ?_
    obtain rfl := Option.some.inj (found.symm.trans skipped)
    exact cut u same
  | counted skipped' count swallowed =>
    obtain rfl := Option.some.inj (same.symm.trans skipped')
    exact .counted skipped count swallowed

theorem swallowed_countChar {c : Char} (count : isCountChar c = true) :
    Swallowed flags (c :: t) ↔ Swallowed flags t := by
  constructor
  · intro swallowed
    cases swallowed with
    | cut cut =>
      have ends := cut _ (skip_countChar count t)
      unfold isCut at ends
      split at ends <;> simp_all [isCountChar] <;> cases count
    | counted skipped _ swallowed =>
      obtain ⟨rfl, rfl⟩ := List.cons.inj (Option.some.inj ((skip_countChar count t).symm.trans skipped))
      exact swallowed
  · exact .counted (skip_countChar count t) count

theorem swallowed_dropWhile (t : Text) :
    Swallowed flags (t.dropWhile Text.Decimal.isDigit) ↔ Swallowed flags t := by
  induction t with
  | nil => rfl
  | cons c t ih =>
    by_cases digit : Text.Decimal.isDigit c = true
    · rw [List.dropWhile_cons_of_pos digit, ih, swallowed_countChar (by simp [isCountChar, digit])]
    · rw [List.dropWhile_cons_of_neg digit]

theorem Swallowed.readRange_eq_none (swallowed : Swallowed flags t)
    (skipped : skip flags t = some rest) : readRange flags rest = none := by
  cases swallowed with
  | cut cut =>
    have ends := cut rest skipped
    unfold isCut at ends
    split at ends <;> simp_all [readRange]
  | @counted _ behind c skipped' count =>
    have other : c ≠ '?' ∧ c ≠ '*' ∧ c ≠ '+' ∧ c ≠ '{' := by
      refine ⟨?_, ?_, ?_, ?_⟩ <;> rintro rfl <;> cases count
    obtain rfl := Option.some.inj (skipped.symm.trans skipped')
    unfold readRange
    split <;> simp_all

/-- A character that stands for itself before a swallowed text is read, and then nothing but what is
lost. -/
theorem Lost.character {c : Char} (swallowed : Swallowed flags t) (lost : Lost flags t)
    (itself : skip flags (c :: t) = some (c :: t)) (opens : opensAtom (c :: t) = true)
    (closing : closes (c :: t) = false)
    (read : ∀ ctx : Context, ctx.flags = flags →
      readAtom ctx (c :: t) = some (char (.literal flags.relaxed c), ctx, t)) :
    Lost flags (c :: t) := by
  rintro ctx ctx' depth parts earlier e rest rfl body
  cases body with
  | finish skipped closing' =>
    obtain rfl := Option.some.inj (skipped.symm.trans itself)
    rw [closing] at closing'
    cases closing'
  | bar skipped | setting skipped | reference skipped | group skipped =>
    obtain ⟨rfl, rfl⟩ := List.cons.inj (Option.some.inj (skipped.symm.trans itself))
    cases opens
  | atom skipped _ read' counted _ more =>
    obtain rfl := Option.some.inj (skipped.symm.trans itself)
    obtain ⟨-, rfl, rfl⟩ : _ ∧ _ ∧ _ := by simpa using read'.symm.trans (read ctx rfl)
    -- Nothing that could count follows, so the rest is read where it was skipped to.
    simp only [readRepetition, Option.bind_eq_bind, Option.bind_eq_some_iff] at counted
    obtain ⟨next, skipped', counted⟩ := counted
    rw [swallowed.readRange_eq_none skipped'] at counted
    obtain ⟨-, rfl⟩ : _ ∧ _ := by simpa using counted
    exact lost.behind skipped' rfl more

theorem Swallowed.lost (swallowed : Swallowed flags t) : Lost flags t := by
  induction swallowed with
  | @cut t cut =>
    rintro ctx ctx' depth parts earlier e rest rfl body
    obtain ⟨u, skipped⟩ := body.skipped
    exact (lost_cut (cut u skipped)).of_skip skipped rfl body
  | @counted t behind c skipped count swallowed ih =>
    have plain : ∀ d ∈ ['.', '^', '$', '[', '\\'] ++ [')', '|', '?', '*', '+', '('], c ≠ d := by
      rintro d member rfl
      simp only [List.cons_append, List.nil_append, List.mem_cons, List.not_mem_nil,
        or_false] at member
      obtain rfl | rfl | rfl | rfl | rfl | rfl | rfl | rfl | rfl | rfl | rfl := member <;> cases count
    refine (ih.character swallowed (skip_countChar count behind) ?_ ?_ ?_).of_skip skipped
    · exact opensAtom_cons.2 fun d member => plain d (List.mem_append_right _ member)
    · rw [Bool.eq_false_iff, ne_eq, closes_cons]
      exact plain ')' (by simp)
    · rintro ctx rfl
      exact readAtom_character (fun d member => plain d (List.mem_append_left _ member)) behind

/-- A `{` before a swallowed text. -/
theorem Swallowed.lost_brace (swallowed : Swallowed flags t) : Lost flags ('{' :: t) := by
  refine swallowed.lost.character swallowed ?_ rfl rfl ?_
  · rw [skip, skipBlank] <;> simp [isBlank]
  · rintro ctx rfl
    exact readAtom_character (by simp) t

/-! ## Counts -/

theorem takeWhile_append {p : Char → Bool} (stops : t.dropWhile p ≠ []) (more : Text) :
    (t ++ more).takeWhile p = t.takeWhile p ∧ (t ++ more).dropWhile p = t.dropWhile p ++ more := by
  induction t with
  | nil => exact absurd rfl stops
  | cons c t ih =>
    by_cases holds : p c = true
    · rw [List.dropWhile_cons_of_pos holds] at stops
      simp [holds, ih stops]
    · simp [holds]

/-- The number at the start of the text ends before its end. -/
theorem readNumber_append (stops : t.dropWhile Text.Decimal.isDigit ≠ []) (more : Text) :
    readNumber (t ++ more) = (readNumber t).map fun (n, rest) => (n, rest ++ more) := by
  obtain ⟨taken, left⟩ := takeWhile_append stops more
  rw [readNumber, taken, left, readNumber, Option.map_map]
  rfl

theorem Swallowed.of_alive (alive : ¬Swallowed flags t) :
    ∃ u, skip flags t = some u ∧ isCut u = false ∧ ¬Swallowed flags u := by
  have open' : ∃ u, skip flags t = some u ∧ isCut u = false := by
    by_contra none
    push Not at none
    exact alive (.cut fun u skipped => by simpa using none u skipped)
  obtain ⟨u, skipped, whole⟩ := open'
  exact ⟨u, skipped, whole, fun swallowed => alive (swallowed.of_skip skipped)⟩

theorem stops_of_alive (alive : ¬Swallowed flags t) :
    t.dropWhile Text.Decimal.isDigit ≠ [] := by
  intro none
  rw [← swallowed_dropWhile, none] at alive
  exact alive (.cut fun u skipped => by cases skipped; rfl)

/-- The end of counts, behind the comma. -/
def upperCount (flags : Flags) (low : Nat) (t : Text) : Option (Nat × Option Nat × Text) :=
  (skip flags t).bind fun t =>
    let upper := match readNumber t with
      | some (high, t) => (some high, t)
      | none => (none, t)
    (skip flags upper.2).bind fun t =>
      match t with
      | '}' :: rest => some (low, upper.1, rest)
      | _ => none

/-- The end of counts, behind the lower one. -/
def lastCounts (flags : Flags) (low : Nat) (t : Text) : Option (Nat × Option Nat × Text) :=
  (skip flags t).bind fun t =>
    match t with
    | '}' :: rest => some (low, some low, rest)
    | ',' :: t => upperCount flags low t
    | _ => none

theorem readCounts_eq (t : Text) :
    readCounts flags t = (skip flags t).bind fun t =>
      if t.head? == some ',' then lastCounts flags 0 t
      else (readNumber t).bind fun (low, t) => lastCounts flags low t := rfl

/-- The result of reading counts with more text behind it. -/
def withMore (more : Text) : Nat × Option Nat × Text → Nat × Option Nat × Text :=
  fun (low, high, rest) => (low, high, rest ++ more)

theorem upperCount_append (alive : ¬Swallowed flags t) (low : Nat) (more : Text) :
    upperCount flags low (t ++ more) = (upperCount flags low t).map (withMore more) := by
  obtain ⟨t', skipped, whole, alive⟩ := Swallowed.of_alive alive
  have number := readNumber_append (stops_of_alive alive) more
  -- What is behind the number goes on as it would without more text.
  have close : ∀ {u : Text} (high : Option Nat), ¬Swallowed flags u →
      ((skip flags (u ++ more)).bind fun t => match t with
        | '}' :: rest => some (low, high, rest)
        | _ => none) =
      ((skip flags u).bind fun t => match t with
        | '}' :: rest => some (low, high, rest)
        | _ => none).map (withMore more) := by
    intro u high alive
    obtain ⟨u', skipped, whole, -⟩ := Swallowed.of_alive alive
    rw [skipped, skip_append skipped whole more, Option.bind_some, Option.bind_some]
    cases u' with
    | nil => cases whole
    | cons c u' =>
      by_cases closing : c = '}'
      · subst closing
        rfl
      · rw [List.cons_append]
        split <;> split <;> simp_all
  simp only [upperCount, skipped, skip_append skipped whole more, Option.bind_some, number]
  cases found : readNumber t' with
  | none => exact close none alive
  | some upper =>
    obtain ⟨high, t''⟩ := upper
    refine close (some high) ?_
    obtain ⟨n, -, same⟩ := Option.map_eq_some_iff.1 found
    obtain ⟨-, rfl⟩ := Prod.mk.inj same
    rwa [swallowed_dropWhile]

theorem lastCounts_append (alive : ¬Swallowed flags t) (low : Nat) (more : Text) :
    lastCounts flags low (t ++ more) = (lastCounts flags low t).map (withMore more) := by
  obtain ⟨t', skipped, whole, alive⟩ := Swallowed.of_alive alive
  simp only [lastCounts, skipped, skip_append skipped whole more, Option.bind_some]
  cases t' with
  | nil => cases whole
  | cons c t' =>
    by_cases closing : c = '}'
    · subst closing
      rfl
    by_cases comma : c = ','
    · subst comma
      rw [swallowed_countChar rfl] at alive
      exact upperCount_append alive low more
    · rw [List.cons_append]
      split <;> split <;> simp_all

/-- Where no digit or comma is swallowed, text behind does not matter to counts. -/
theorem readCounts_append (alive : ¬Swallowed flags t) (more : Text) :
    readCounts flags (t ++ more) = (readCounts flags t).map (withMore more) := by
  obtain ⟨t', skipped, whole, alive⟩ := Swallowed.of_alive alive
  have head : (t' ++ more).head? = t'.head? := by
    cases t' with
    | nil => cases whole
    | cons c t' => rfl
  simp only [readCounts_eq, skipped, skip_append skipped whole more, Option.bind_some, head]
  split
  · exact lastCounts_append alive 0 more
  · rw [readNumber_append (stops_of_alive alive) more]
    cases found : readNumber t' with
    | none => rfl
    | some lower =>
      obtain ⟨low, t''⟩ := lower
      refine lastCounts_append ?_ low more
      obtain ⟨n, -, same⟩ := Option.map_eq_some_iff.1 found
      obtain ⟨-, rfl⟩ := Prod.mk.inj same
      rwa [swallowed_dropWhile]

theorem Swallowed.behind {t' : Text} (swallowed : Swallowed flags t)
    (skipped : skip flags t = some t') : Swallowed flags t' := by
  have same := skip_skip skipped
  cases swallowed with
  | cut cut =>
    refine .cut fun u found => ?_
    obtain rfl := Option.some.inj (same.symm.trans found)
    exact cut t' skipped
  | counted skipped' count swallowed =>
    obtain rfl := Option.some.inj (skipped.symm.trans skipped')
    exact .counted same count swallowed

theorem Swallowed.ne_closing (swallowed : Swallowed flags t) (u : Text) :
    skip flags t ≠ some ('}' :: u) := by
  intro skipped
  cases swallowed with
  | cut cut => cases cut _ skipped
  | counted skipped' count =>
    obtain ⟨rfl, -⟩ := List.cons.inj (Option.some.inj (skipped.symm.trans skipped'))
    cases count

theorem Swallowed.behindNumber {n : Nat} (swallowed : Swallowed flags t)
    (found : readNumber t = some (n, rest)) : Swallowed flags rest := by
  obtain ⟨m, -, same⟩ := Option.map_eq_some_iff.1 found
  obtain ⟨-, rfl⟩ := Prod.mk.inj same
  rwa [swallowed_dropWhile]

theorem Swallowed.upperCount_eq_none (swallowed : Swallowed flags t) (low : Nat) :
    upperCount flags low t = none := by
  rw [upperCount, Option.bind_eq_none_iff]
  intro t' skipped
  have within := swallowed.behind skipped
  have close : ∀ {u : Text} (high : Option Nat), Swallowed flags u →
      ((skip flags u).bind fun t => match t with
        | '}' :: rest => some (low, high, rest)
        | _ => none) = none := by
    intro u high swallowed
    rw [Option.bind_eq_none_iff]
    intro u' skipped
    split
    · exact absurd skipped (swallowed.ne_closing _)
    · rfl
  cases found : readNumber t' with
  | none => exact close none within
  | some upper => exact close (some upper.1) (within.behindNumber found)

theorem Swallowed.lastCounts_eq_none (swallowed : Swallowed flags t) (low : Nat) :
    lastCounts flags low t = none := by
  rw [lastCounts, Option.bind_eq_none_iff]
  intro t' skipped
  split
  · exact absurd skipped (swallowed.ne_closing _)
  · have within := swallowed.behind skipped
    rw [swallowed_countChar rfl] at within
    exact within.upperCount_eq_none low
  · rfl

/-- Counts are never read over a swallowed text. -/
theorem Swallowed.readCounts_eq_none (swallowed : Swallowed flags t) : readCounts flags t = none := by
  rw [readCounts_eq, Option.bind_eq_none_iff]
  intro t' skipped
  have within := swallowed.behind skipped
  split
  · exact within.lastCounts_eq_none 0
  · rw [Option.bind_eq_none_iff]
    rintro ⟨low, behind⟩ found
    exact (within.behindNumber found).lastCounts_eq_none low

/-! ## Repetitions -/

/-- Counts in front of a text that is not lost. -/
theorem readRange_append {low : Nat} {high : Option Nat} (read : readRange flags t = some (low, high, rest))
    (more : Text) : readRange flags (t ++ more) = some (low, high, rest ++ more) := by
  unfold readRange at read
  split at read
  · cases read
    rfl
  · cases read
    rfl
  · cases read
    rfl
  · have alive : ¬Swallowed flags _ := fun swallowed => by
      rw [swallowed.readCounts_eq_none] at read
      cases read
    rw [List.cons_append, readRange, readCounts_append alive more, read]
    rfl
  · cases read

theorem readRange_none_append (failed : readRange flags t = none) (alive : ¬Lost flags t)
    (more : Text) : readRange flags (t ++ more) = none := by
  cases t with
  | nil => exact absurd (lost_nil flags) alive
  | cons c t =>
    by_cases brace : c = '{'
    · subst brace
      have alive' : ¬Swallowed flags t := fun swallowed => alive swallowed.lost_brace
      have uncounted : readCounts flags t = none := failed
      rw [List.cons_append, readRange, readCounts_append alive' more, uncounted]
      rfl
    · unfold readRange at failed ⊢
      rw [List.cons_append]
      split <;> simp_all

theorem isCut_of_alive (alive : ¬Lost flags t) : isCut t = false := by
  cases cut : isCut t with
  | false => rfl
  | true => exact absurd (lost_cut cut) alive

/-- Whether a mark stands at the start of the text, and the text behind it. -/
def mark (c : Char) : Text → Bool × Text
  | [] => (false, [])
  | d :: t => if d = c then (true, t) else (false, d :: t)

theorem mark_append (c : Char) (nonempty : t ≠ []) (more : Text) :
    mark c (t ++ more) = ((mark c t).1, (mark c t).2 ++ more) := by
  cases t with
  | nil => exact absurd rfl nonempty
  | cons d t =>
    by_cases same : d = c <;> simp [mark, same]

theorem mark_cut (cut : isCut t = true) (c : Char) (other : c ≠ '(') : mark c t = (false, t) := by
  unfold isCut at cut
  split at cut
  · rfl
  · simp [mark, Ne.symm other]
  · simp [mark, Ne.symm other]
  · cases cut

theorem readRepetition_eq (t : Text) :
    readRepetition flags t = (skip flags t).bind fun t =>
      match readRange flags t with
      | none => some (none, t)
      | some (low, high, t) => (skip flags t).map fun t =>
        (some ⟨low, high, (mark '?' t).1 == flags.lazyFirst, (mark '+' (mark '?' t).2).1⟩,
          (mark '+' (mark '?' t).2).2) := by
  refine Option.bind_congr fun t' _ => ?_
  cases readRange flags t' with
  | none => rfl
  | some counts =>
    refine Eq.trans (Option.bind_congr fun u _ => ?_) Option.map_eq_bind.symm
    cases u with
    | nil => rfl
    | cons c u =>
      by_cases optional : c = '?'
      · subst optional
        cases u with
        | nil => rfl
        | cons d u =>
          by_cases possessive : d = '+'
          · subst possessive
            rfl
          · simp [mark, possessive]
      · by_cases possessive : c = '+'
        · subst possessive
          rfl
        · simp [mark, optional, possessive]

theorem readRepetition_append {times : Option Repetition}
    (read : readRepetition flags t = some (times, rest)) (alive : ¬Lost flags rest) (more : Text) :
    readRepetition flags (t ++ more) = some (times, rest ++ more) := by
  have whole := isCut_of_alive alive
  rw [readRepetition_eq, Option.bind_eq_some_iff] at read
  obtain ⟨t', skipped, read⟩ := read
  cases found : readRange flags t' with
  | none =>
    rw [found] at read
    obtain ⟨rfl, rfl⟩ : none = times ∧ t' = rest := by simpa using read
    rw [readRepetition_eq, skip_append skipped whole more, Option.bind_some,
      readRange_none_append found alive more]
  | some counts =>
    obtain ⟨low, high, behind⟩ := counts
    rw [found] at read
    obtain ⟨behind', skipped', same⟩ := Option.map_eq_some_iff.1 read
    obtain ⟨rfl, rfl⟩ := Prod.mk.inj same
    have counted : isCut t' = false := by
      cases cut : isCut t' with
      | false => rfl
      | true =>
        unfold isCut at cut
        split at cut <;> simp_all [readRange]
    have open' : isCut behind' = false := by
      cases cut : isCut behind' with
      | false => rfl
      | true =>
        rw [mark_cut cut '?' (by decide), mark_cut cut '+' (by decide), cut] at whole
        cases whole
    have first : behind' ≠ [] := by
      rintro rfl
      cases open'
    have second : (mark '?' behind').2 ≠ [] := by
      intro none
      rw [none] at whole
      cases whole
    rw [readRepetition_eq, skip_append skipped counted more, Option.bind_some,
      readRange_append found more]
    simp only [skip_append skipped' open' more, Option.map_some, mark_append '?' first,
      mark_append '+' second]

end RoutePattern.Expr.Reader
