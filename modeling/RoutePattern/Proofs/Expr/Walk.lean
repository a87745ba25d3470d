import RoutePattern.Proofs.Expr.Inert
import RoutePattern.Proofs.Expr.Lookahead

/-! # What the reader steps over

Between two groups the reader of expressions goes over a notation in small steps: a backslash with the
character behind it, any other character, or a comment up to the end of a line. `Walks` is a run of such
steps, and `Spot` tells where each of them is made. All that is skipped and all atoms, repetitions and
flags are run over in this way (`walks_skip`, `walks_readAtom`, `walks_readRepetition`,
`walks_readFlags`), so what a single step keeps is kept by the reader.
-/

namespace RoutePattern.Expr.Reader

/-- Where a character of a notation stands. -/
inductive Spot where
  | outside
  /-- In a comment; `opened` tells whether the last square bracket in it is an opening one. -/
  | comment (opened : Bool)
  /-- Behind the `[` of a set, where a `^` may follow if there was none. -/
  | opening (caret : Bool)
  /-- In a set with `depth` brackets to close; the last one was an opening one if `opened`. -/
  | set (depth : Nat) (opened : Bool)

namespace Spot

/-- The spot behind an escape. -/
def settled : Spot → Spot
  | opening _ => set 1 true
  | spot => spot

/-- The spot behind a character that is not escaped and that has `rest` behind it. -/
def next : Spot → Char → (rest : Text) → Spot
  | outside, c, rest =>
    if c = '[' then opening true
    else if c = '(' ∧ rest.take 2 = ['?', '#'] then comment false
    else outside
  | comment opened, c, _ =>
    if c = ')' then outside else if c = '[' then comment true else if c = ']' then comment false
    else comment opened
  | opening caret, c, _ =>
    if c = '^' ∧ caret = true then opening false else if c = '[' then set 2 true
    else if c = ']' then set 1 false
    else set 1 true
  | set depth opened, c, _ =>
    if c = '[' then set (depth + 1) true
    else if c = ']' then if depth ≤ 1 then outside else set (depth - 1) false
    else set depth opened

end Spot

/-- The reader comes from a spot of a text to another spot, with `rest` behind it, and opens no group
on the way. Comments up to the end of a line are there only where blanks may be `spaced`. -/
inductive Walks (spaced : Bool) : Spot → Text → Spot → (rest : Text) → Prop
  | done (spot : Spot) (t : Text) : Walks spaced spot t spot t
  | escape {spot spot' : Spot} (c : Char) {t rest : Text}
      (more : Walks spaced spot.settled t spot' rest) : Walks spaced spot ('\\' :: c :: t) spot' rest
  | char {spot spot' : Spot} {c : Char} {t rest : Text} (plain : c ≠ '\\')
      (inside : c = '(' → spot ≠ .outside) (more : Walks spaced (spot.next c t) t spot' rest) :
      Walks spaced spot (c :: t) spot' rest
  | comment {spot' : Spot} {t rest : Text} (more : Walks spaced (.comment false) t spot' rest) :
      Walks spaced .outside ('(' :: '?' :: '#' :: t) spot' rest
  | line {spot' : Spot} (spaces : spaced = true) (s : Text) {t rest : Text}
      (more : Walks spaced .outside t spot' rest) :
      Walks spaced .outside ('#' :: s ++ '\n' :: t) spot' rest
  | lastLine (spaces : spaced = true) (s : Text) : Walks spaced .outside ('#' :: s) .outside []
  /-- No `^` and no `]` stands behind the `[` of a set. -/
  | enter {spot' : Spot} {t rest : Text} (caret : Bool)
      (notCaret : caret = true → t.head? ≠ some '^') (notClosed : t.head? ≠ some ']')
      (more : Walks spaced (.set 1 true) t spot' rest) : Walks spaced (.opening caret) t spot' rest

variable {spaced : Bool} {spot spot' spot'' : Spot} {c : Char} {t u rest : Text}

namespace Walks

theorem trans (first : Walks spaced spot t spot' u) (second : Walks spaced spot' u spot'' rest) :
    Walks spaced spot t spot'' rest := by
  induction first with
  | done => exact second
  | escape c _ ih => exact .escape c (ih second)
  | char plain inside _ ih => exact .char plain inside (ih second)
  | comment _ ih => exact .comment (ih second)
  | line spaces s _ ih => exact .line spaces s (ih second)
  | lastLine spaces s =>
    cases second
    exact .lastLine spaces s
  | enter caret notCaret notClosed _ ih => exact .enter caret notCaret notClosed (ih second)

theorem step (plain : c ≠ '\\') (inside : c = '(' → spot ≠ .outside)
    (leads : spot.next c rest = spot') : Walks spaced spot (c :: rest) spot' rest := by
  subst leads
  exact .char plain inside (.done _ rest)

/-- One character outside of sets that starts no escape, set or group. -/
theorem ordinary (notEscape : c ≠ '\\') (notSet : c ≠ '[') (notGroup : c ≠ '(') (rest : Text) :
    Walks spaced .outside (c :: rest) .outside rest :=
  step notEscape (absurd · notGroup) (by simp [Spot.next, notSet, notGroup])

theorem ne_of_isInert (inert : isInert c = true) : ∀ d ∈ special, c ≠ d := by
  simpa [isInert, special] using inert

theorem inert (inert : isInert c = true) (rest : Text) :
    Walks spaced .outside (c :: rest) .outside rest :=
  have other := ne_of_isInert inert
  ordinary (other _ (by simp [special])) (other _ (by simp [special])) (other _ (by simp [special])) rest

theorem outside (taken : Takes t rest) : Walks spaced .outside t .outside rest := by
  obtain ⟨s, inert, rfl⟩ := taken
  induction s with
  | nil => exact .done _ rest
  | cons c s ih =>
    rw [List.all_cons, Bool.and_eq_true] at inert
    exact (Walks.inert inert.1 _).trans (ih inert.2)

theorem set (depth : Nat) (opened : Bool) (taken : Takes t rest) :
    Walks spaced (.set depth opened) t (.set depth opened) rest := by
  obtain ⟨s, inert, rfl⟩ := taken
  induction s with
  | nil => exact .done _ rest
  | cons c s ih =>
    rw [List.all_cons, Bool.and_eq_true] at inert
    have other := ne_of_isInert inert.1
    have stays : (Spot.set depth opened).next c (s ++ rest) = .set depth opened := by
      simp [Spot.next, other '[' (by simp [special]), other ']' (by simp [special])]
    exact (step (other _ (by simp [special])) (fun _ => by simp) stays).trans (ih inert.2)

end Walks

/-! ## Blanks and comments -/

theorem walks_inComment (opened : Bool) (plain : c ≠ '\\') (inside : c ≠ ')') (rest : Text) :
    Walks spaced (.comment opened) (c :: rest)
      (.comment (if c = '[' then true else if c = ']' then false else opened)) rest := by
  have spot : (Spot.comment opened).next c rest =
      .comment (if c = '[' then true else if c = ']' then false else opened) := by
    simp only [Spot.next, if_neg inside]
    split
    · rfl
    · split <;> rfl
  exact .step plain (fun _ => by simp) spot

theorem walks_commentEnd (opened : Bool) (rest : Text) :
    Walks spaced (.comment opened) (')' :: rest) .outside rest :=
  .step (by simp) (fun _ => by simp) rfl

/-- What is skipped is run over, from outside, from within a comment, or from within one that ends with
the line. -/
theorem walks_skipBlank {s : Bool} (low : s = true → spaced = true) {blank : Blank}
    (skipped : skipBlank s blank t = some rest) :
    (blank = .outside → Walks spaced .outside t .outside rest) ∧
      (blank = .comment → ∀ opened, Walks spaced (.comment opened) t .outside rest) ∧
      (blank = .line →
        rest = [] ∨ ∃ l u, t = l ++ '\n' :: u ∧ Walks spaced .outside u .outside rest) := by
  fun_induction skipBlank s blank t with
  | case1 t ih => exact ⟨fun _ => .comment ((ih skipped).2.1 rfl false), by simp, by simp⟩
  | case2 c t notComment blank ih =>
    refine ⟨fun _ => (Walks.inert ?_ t).trans ((ih skipped).1 rfl), by simp, by simp⟩
    exact isInert_of (p := isBlank) rfl (Bool.and_eq_true_iff.1 blank).2
  | case3 c t notComment notBlank number ih =>
    refine ⟨fun _ => ?_, by simp, by simp⟩
    obtain ⟨spaces, same⟩ := Bool.and_eq_true_iff.1 number
    obtain rfl := beq_iff_eq.1 same
    rcases (ih skipped).2.2 rfl with rfl | ⟨l, u, rfl, more⟩
    · exact .lastLine (low spaces) t
    · exact .line (low spaces) l more
  | case4 c t notComment notBlank plain =>
    cases skipped
    exact ⟨fun _ => .done _ _, by simp, by simp⟩
  | case5 t ih =>
    exact ⟨by simp, fun _ opened => (walks_commentEnd opened t).trans ((ih skipped).1 rfl), by simp⟩
  | case6 d t ih =>
    exact ⟨by simp, fun _ opened => .escape d ((ih skipped).2.1 rfl opened), by simp⟩
  | case7 c t notClosing notEscape ih =>
    refine ⟨by simp, fun _ opened => ?_, by simp⟩
    by_cases escape : c = '\\'
    · cases t with
      | nil => cases skipped
      | cons d t => exact absurd rfl (notEscape d t escape)
    · exact (walks_inComment opened escape (fun same => notClosing same) t).trans
        ((ih skipped).2.1 rfl _)
  | case8 t ih => exact ⟨by simp, by simp, fun _ => .inr ⟨[], t, rfl, (ih skipped).1 rfl⟩⟩
  | case9 c t notEnd ih =>
    refine ⟨by simp, by simp, fun _ => ?_⟩
    rcases (ih skipped).2.2 rfl with none | ⟨l, u, rfl, more⟩
    · exact .inl none
    · exact .inr ⟨c :: l, u, rfl, more⟩
  | case10 => cases skipped
  | case11 =>
    cases skipped
    exact ⟨fun _ => .done _ _, by simp, by simp⟩
  | case12 =>
    cases skipped
    exact ⟨fun _ => .done _ _, by simp, fun _ => .inl rfl⟩

theorem walks_skip {flags : Flags} (low : flags.spaced = true → spaced = true)
    (skipped : skip flags t = some rest) : Walks spaced .outside t .outside rest :=
  (walks_skipBlank low skipped).1 rfl

/-! ## Repetition -/

section Repetition

variable {flags : Flags} {least fewest : Nat} {most : Option Nat}

theorem takes_of_readNumber {n : Nat} (read : readNumber t = some (n, rest)) : Takes t rest := by
  obtain ⟨m, -, same⟩ := Option.map_eq_some_iff.1 read
  cases same
  exact takes_dropWhile (fun _ => isInert_of_isDigit) t

theorem walks_upperCount (low : flags.spaced = true → spaced = true)
    (read : upperCount flags least t = some (fewest, most, rest)) :
    Walks spaced .outside t .outside rest := by
  obtain ⟨t', skipped, read⟩ := Option.bind_eq_some_iff.1 read
  obtain ⟨u, skipped', read⟩ := Option.bind_eq_some_iff.1 read
  have number : Walks spaced .outside t' .outside u := by
    cases found : readNumber t' with
    | none =>
      rw [found] at skipped'
      exact walks_skip low skipped'
    | some upper =>
      rw [found] at skipped'
      exact (Walks.outside (takes_of_readNumber found)).trans (walks_skip low skipped')
  split at read
  · cases read
    exact ((walks_skip low skipped).trans number).trans (.inert rfl _)
  · cases read

theorem walks_lastCounts (low : flags.spaced = true → spaced = true)
    (read : lastCounts flags least t = some (fewest, most, rest)) :
    Walks spaced .outside t .outside rest := by
  obtain ⟨t', skipped, read⟩ := Option.bind_eq_some_iff.1 read
  refine (walks_skip low skipped).trans ?_
  split at read
  · cases read
    exact .inert rfl _
  · exact (Walks.inert rfl _).trans (walks_upperCount low read)
  · cases read

theorem walks_readCounts (low : flags.spaced = true → spaced = true)
    (read : readCounts flags t = some (fewest, most, rest)) :
    Walks spaced .outside t .outside rest := by
  rw [readCounts_eq, Option.bind_eq_some_iff] at read
  obtain ⟨t', skipped, read⟩ := read
  refine (walks_skip low skipped).trans ?_
  split at read
  · exact walks_lastCounts low read
  · obtain ⟨⟨n, u⟩, number, read⟩ := Option.bind_eq_some_iff.1 read
    exact (Walks.outside (takes_of_readNumber number)).trans (walks_lastCounts low read)

theorem walks_readRange (low : flags.spaced = true → spaced = true)
    (read : readRange flags t = some (fewest, most, rest)) :
    Walks spaced .outside t .outside rest := by
  unfold readRange at read
  split at read
  · cases read
    exact .inert rfl _
  · cases read
    exact .inert rfl _
  · cases read
    exact .inert rfl _
  · exact (Walks.inert rfl _).trans (walks_readCounts low read)
  · cases read

theorem walks_mark (inert : isInert c = true) (t : Text) :
    Walks spaced .outside t .outside (mark c t).2 := by
  cases t with
  | nil => exact .done _ _
  | cons d t =>
    by_cases same : d = c
    · subst same
      rw [mark, if_pos rfl]
      exact .inert inert t
    · rw [mark, if_neg same]
      exact .done _ _

theorem walks_readRepetition (low : flags.spaced = true → spaced = true)
    {times : Option Repetition} (read : readRepetition flags t = some (times, rest)) :
    Walks spaced .outside t .outside rest := by
  rw [readRepetition_eq, Option.bind_eq_some_iff] at read
  obtain ⟨t', skipped, read⟩ := read
  refine (walks_skip low skipped).trans ?_
  split at read
  · cases read
    exact .done _ _
  · rename_i counted
    obtain ⟨u, skipped', same⟩ := Option.map_eq_some_iff.1 read
    cases same
    exact ((walks_readRange low counted).trans (walks_skip low skipped')).trans
      ((walks_mark rfl u).trans (walks_mark rfl _))

end Repetition

/-! ## Sets and other atoms -/

theorem walks_readSymbols {ctx : Context} {bound depth : Nat} {symbols : List CharSet.Bracket.Symbol}
    (read : readSymbols ctx bound depth t = some (symbols, rest)) (opened : Bool) :
    Walks spaced (.set depth opened) t .outside rest := by
  induction bound generalizing depth t symbols opened with
  | zero => cases read
  | succ bound ih =>
    cases t with
    | nil => cases read
    | cons c t =>
      rw [readSymbols] at read
      split at read
      · rename_i escape
        obtain rfl := beq_iff_eq.1 escape
        split at read
        · rename_i symbol u escaped
          obtain ⟨⟨more, behind⟩, others, same⟩ := Option.map_eq_some_iff.1 read
          cases same
          cases t with
          | nil => cases escaped
          | cons d t =>
            exact .escape d ((Walks.set depth opened (takes_of_readBracketEscape escaped)).trans
              (ih others opened))
        · cases read
      · rename_i plain
        have notEscape : c ≠ '\\' := by simpa using plain
        split at read
        · rename_i last
          obtain ⟨closes, shallow⟩ := Bool.and_eq_true_iff.1 last
          obtain rfl := beq_iff_eq.1 closes
          cases read
          have left : (Spot.set depth opened).next ']' rest = .outside := by
            simpa [Spot.next] using shallow
          exact .step notEscape (fun _ => by simp) left
        · rename_i inner
          obtain ⟨⟨more, behind⟩, others, same⟩ := Option.map_eq_some_iff.1 read
          cases same
          have kept : ∃ opened', (Spot.set depth opened).next c t = .set
              (if c == '[' then depth + 1 else if c == ']' then depth - 1 else depth) opened' := by
            by_cases opens : c = '['
            · exact ⟨true, by simp [Spot.next, opens]⟩
            · by_cases closes : c = ']'
              · have deep : ¬depth ≤ 1 := by simpa [closes] using inner
                exact ⟨false, by simp [Spot.next, closes, deep]⟩
              · exact ⟨opened, by simp [Spot.next, opens, closes]⟩
          obtain ⟨opened', kept⟩ := kept
          exact (Walks.step notEscape (fun _ => by simp) kept).trans (ih others opened')

theorem walks_readBracket {ctx : Context} {s : CharSet}
    (read : readBracket ctx t = some (s, rest)) :
    Walks spaced .outside ('[' :: t) .outside rest := by
  have opened : Walks spaced .outside ('[' :: t) (.opening true) t :=
    .step (by simp) (absurd · (by simp)) rfl
  refine opened.trans ?_
  -- What stands for itself in front: a caret, and a bracket behind it.
  have closed : ∀ caret u, Walks spaced (.opening caret) (']' :: u) (.set 1 false) u :=
    fun caret u => .step (by simp) (fun _ => by simp) (by simp [Spot.next])
  unfold readBracket at read
  dsimp only at read
  split at read
  · rename_i symbols u symbolsRead
    obtain ⟨set, -, same⟩ := Option.map_eq_some_iff.1 read
    cases same
    by_cases caret : t.head? = some '^'
    · obtain ⟨t, rfl⟩ : ∃ t', t = '^' :: t' := List.head?_eq_some_iff.1 caret
      have once : Walks spaced (.opening true) ('^' :: t) (.opening false) t :=
        .step (by simp) (fun _ => by simp) rfl
      refine once.trans ?_
      by_cases bracket : t.head? = some ']'
      · obtain ⟨t, rfl⟩ : ∃ t', t = ']' :: t' := List.head?_eq_some_iff.1 bracket
        exact (closed false t).trans (walks_readSymbols symbolsRead false)
      · simp [bracket] at symbolsRead
        exact .enter false (by simp) bracket (walks_readSymbols symbolsRead true)
    · by_cases bracket : t.head? = some ']'
      · obtain ⟨t, rfl⟩ : ∃ t', t = ']' :: t' := List.head?_eq_some_iff.1 bracket
        exact (closed true t).trans (walks_readSymbols symbolsRead false)
      · simp [caret, bracket] at symbolsRead
        exact .enter true (fun _ => caret) bracket (walks_readSymbols symbolsRead true)
  · cases read

theorem walks_readAtom {ctx ctx' : Context} {e : Expr} (opens : opensAtom t = true)
    (read : readAtom ctx t = some (e, ctx', rest)) : Walks spaced .outside t .outside rest := by
  unfold readAtom at read
  split at read
  · cases read
    exact .inert rfl _
  · cases read
    exact .inert rfl _
  · cases read
    exact .inert rfl _
  · obtain ⟨⟨s, u⟩, found, same⟩ := Option.map_eq_some_iff.1 read
    cases same
    exact walks_readBracket found
  · rename_i u
    have escaped : ∀ {e : Escape} {u' : Text}, readEscape ctx u = some (e, u') →
        Walks spaced .outside ('\\' :: u) .outside u' := by
      intro e u' found
      cases u with
      | nil => cases found
      | cons d u => exact .escape d (.outside (takes_of_readEscape found))
    split at read <;> cases read <;> exact escaped ‹_›
  · rename_i c u notDot notStart notEnd notSet notEscape
    cases read
    exact .ordinary notEscape notSet (opensAtom_cons.1 opens _ (by simp)) _
  · cases read

/-! ## Kinds of groups -/

/-- Blanks are skipped behind the bracket only if they may be `spaced`. -/
def GroupHead.low (spaced : Bool) : GroupHead → Prop
  | .scoped flags | .setting flags => flags.spaced = true → spaced = true
  | .capture _ | .look _ _ | .atomic | .reference _ => True

/-- The flags behind `(?` may let blanks be skipped: they name `x`, or a comment divides them. -/
def turnsSpaced : Text → Bool
  | '?' :: t =>
    (t.takeWhile isAsciiLetter).contains 'x' || (t.dropWhile isAsciiLetter).head? == some '('
  | _ => false

theorem exists_of_set? {flags flags' : Flags} {value : Bool} {c : Char}
    (set : flags.set? value c = some flags') :
    isAsciiLetter c = true ∧ isInert c = true ∧
      (flags'.spaced = true → flags.spaced = true ∨ c = 'x' ∧ value = true) := by
  unfold Flags.set? at set
  split at set
  case h_6 =>
    split at set
    · cases set
      exact ⟨rfl, rfl, Or.inl⟩
    · cases set
  case h_7 => cases set
  all_goals
    cases set
    refine ⟨rfl, rfl, ?_⟩
    first
    | exact Or.inl
    | exact fun turned => Or.inr ⟨rfl, turned⟩

theorem skip_of_head {flags : Flags} (unspaced : flags.spaced = false) (notGroup : t.head? ≠ some '(') :
    skip flags t = some t := by
  cases t with
  | nil => rfl
  | cons c t =>
    have other : c ≠ '(' := by simpa using notGroup
    rw [skip, unspaced, skipBlank]
    · simp
    · rintro u rfl
      exact absurd rfl other

theorem turnsSpaced_cons {c : Char} (letter : isAsciiLetter c = true) (t : Text) :
    turnsSpaced ('?' :: c :: t) = ('x' == c || turnsSpaced ('?' :: t)) := by
  rw [turnsSpaced, List.takeWhile_cons_of_pos letter, List.dropWhile_cons_of_pos letter,
    List.contains_cons, turnsSpaced, Bool.or_assoc]

theorem head?_of_turnsSpaced (unspaced : turnsSpaced ('?' :: t) = false) : t.head? ≠ some '(' := by
  cases t with
  | nil => simp
  | cons c t =>
    intro group
    obtain rfl : c = '(' := by simpa using group
    rw [turnsSpaced, List.dropWhile_cons_of_neg (Bool.eq_false_iff.1 rfl)] at unspaced
    simp at unspaced

/-- Flags are run over. If blanks must not be skipped, they do not turn that on. -/
theorem walks_readFlags {bound : Nat} {flags : Flags} {off : Bool} {last : Option Char}
    {head : GroupHead} (low : flags.spaced = true → spaced = true)
    (unspaced : spaced = true ∨ off = true ∨ turnsSpaced ('?' :: t) = false)
    (read : readFlags bound flags off last t = some (head, rest)) :
    Walks spaced .outside t .outside rest ∧ (∀ name, head ≠ .capture name) ∧ head.low spaced := by
  induction bound generalizing flags off last t with
  | zero => cases read
  | succ bound ih =>
    rw [readFlags] at read
    split at read
    · cases read
    · rename_i u skipped
      have passed : Walks spaced .outside t .outside u := walks_skip low skipped
      have unspaced' : spaced = true ∨ off = true ∨ turnsSpaced ('?' :: u) = false := by
        rcases unspaced with may | turnedOff | named
        · exact .inl may
        · exact .inr (.inl turnedOff)
        · cases spaced with
          | true => exact .inl rfl
          | false =>
            have counts : flags.spaced = false := Bool.eq_false_iff.2 fun on => Bool.false_ne_true (low on)
            obtain rfl : t = u :=
              Option.some.inj ((skip_of_head counts (head?_of_turnsSpaced named)).symm.trans skipped)
            exact .inr (.inr named)
      dsimp only at read
      generalize (if (u.length == t.length) = true then last else some ' ') = last' at read
      split at read
      · cases read
      · split at read <;> cases read
        exact ⟨passed.trans (.inert rfl _), by simp, low⟩
      · split at read <;> cases read
        exact ⟨passed.trans (.inert rfl _), by simp, low⟩
      · split at read
        · cases read
        · obtain ⟨passed', plain, low'⟩ := ih low (.inr (.inl rfl)) read
          exact ⟨(passed.trans (.inert rfl _)).trans passed', plain, low'⟩
      · rename_i c u notClosing notColon notOff
        split at read
        · rename_i flags' set
          obtain ⟨letter, inert, turned⟩ := exists_of_set? set
          have low' : flags'.spaced = true → spaced = true := by
            intro on
            rcases turned on with before | ⟨rfl, active⟩
            · exact low before
            · rcases unspaced' with may | turnedOff | named
              · exact may
              · rw [turnedOff] at active
                cases active
              · rw [turnsSpaced_cons letter] at named
                cases named
          have later : spaced = true ∨ off = true ∨ turnsSpaced ('?' :: u) = false := by
            refine unspaced'.imp_right (Or.imp_right fun named => ?_)
            rw [turnsSpaced_cons letter, Bool.or_eq_false_iff] at named
            exact named.2
          obtain ⟨passed', plain, kept⟩ := ih low' later read
          exact ⟨(passed.trans (.inert inert _)).trans passed', plain, kept⟩
        · cases read

/-- What tells the kind of a group is run over. -/
theorem walks_readGroupHead {ctx : Context} {head : GroupHead} {held : Text}
    (low : ctx.flags.spaced = true → spaced = true)
    (unspaced : spaced = true ∨ turnsSpaced ('?' :: t) = false)
    (read : readGroupHead ctx ('?' :: t) = some (head, held)) :
    Walks spaced .outside ('?' :: t) .outside held ∧ head.low spaced := by
  unfold readGroupHead at read
  split at read
  -- The two forms of a named group, a reference, and flags; all others are marks of one kind.
  case h_5 =>
    rename_i same
    obtain ⟨⟨name, u⟩, found, same'⟩ := Option.map_eq_some_iff.1 read
    cases same
    cases same'
    exact ⟨.outside (.cons rfl (.cons rfl (takes_of_readName rfl found))), trivial⟩
  case h_6 =>
    rename_i same
    obtain ⟨⟨name, u⟩, found, same'⟩ := Option.map_eq_some_iff.1 read
    cases same
    cases same'
    exact ⟨.outside (.cons rfl (.cons rfl (.cons rfl (takes_of_readName rfl found)))), trivial⟩
  case h_7 =>
    rename_i same
    obtain ⟨⟨name, u⟩, found, referred⟩ := Option.bind_eq_some_iff.1 read
    obtain ⟨n, -, same'⟩ := Option.map_eq_some_iff.1 referred
    cases same
    cases same'
    exact ⟨.outside (.cons rfl (.cons rfl (.cons rfl (takes_of_readName rfl found)))), trivial⟩
  case h_9 =>
    rename_i same
    cases same
    obtain ⟨walks, -, kept⟩ := walks_readFlags low (unspaced.imp_right Or.inr) read
    exact ⟨(Walks.inert rfl _).trans walks, kept⟩
  case h_10 =>
    rename_i flags
    exact absurd rfl (flags t)
  all_goals
    rename_i same
    cases same
    cases read
    refine ⟨.outside ?_, trivial⟩
    first
    | exact .cons rfl (.cons rfl (.refl _))
    | exact .cons rfl (.cons rfl (.cons rfl (.refl _)))

end RoutePattern.Expr.Reader
