import RoutePattern.Matcher
import RoutePattern.Proofs.Expr.Walk

/-! # Legible notations

`Matcher.keysFrom` looks at the brackets of an expression without reading it: between a `[` and the next
`]` it takes a `(` for a character, and everywhere else for a group. A notation is legible where that is
so (`isLegible`); one with a condition `(?(…)…)` never is. What the reader of expressions steps over without opening a group (`Walks`), the look
passes without a key (`passes_of_walks`).
-/

namespace RoutePattern

/-- What the look at the brackets takes for a set. -/
def Expr.Reader.Spot.inClass : Expr.Reader.Spot → Bool
  | outside => false
  | comment opened | set _ opened => opened
  | opening _ => true

namespace Matcher

open Expr.Reader

/-- The bracket, which `rest` follows, starts a condition: what matches depends on another group. -/
def isConditional (rest : Text) : Bool := rest.take 2 == ['?', '(']

/-- The kind of a group shows right behind its bracket, which `rest` follows, and blanks are skipped in
it only if they may be `spaced`. The look would take the bracket behind `(?` for another group. -/
def opensPlainly (spaced : Bool) (rest : Text) : Bool :=
  !isConditional rest &&
    (rest.head? == some '?' ||
      [false, spaced].all fun s => (skipBlank s .outside rest).all (·.head? != some '?')) &&
    (spaced || !turnsSpaced rest)

/-- The character may stand at the spot: brackets mean what they seem to mean. -/
def allows (spaced : Bool) (spot : Spot) (c : Char) (rest : Text) : Bool :=
  match spot with
  | .outside => if c = '(' then opensPlainly spaced rest else !(spaced && c == '#')
  | .comment opened => if c = '(' then opened else if c = ')' then !opened else true
  | .opening _ => true
  | .set _ opened => c != '(' || opened

/-- All characters from a spot on may stand where they do. -/
def isLegibleFrom (spaced : Bool) : Spot → Text → Bool
  | _, [] => true
  | spot, '\\' :: _ :: rest => isLegibleFrom spaced spot.settled rest
  | spot, c :: rest => allows spaced spot c rest && isLegibleFrom spaced (spot.next c rest) rest

/-- In a legible notation a `(` in a set stands behind a `[` with no `]` between them, one in a comment
does so too, and no comment comes between a bracket and the `?` that tells its kind. If blanks can be
skipped, there are none before such a `?`, and no `#` outside of sets. A condition is not legible. -/
def isLegible (t : Text) : Bool := [false, true].any (isLegibleFrom · .outside t)

-- The second bracket of a condition is no group, but the look takes it for one.
example : isLegible "(a)(?(1)b|c)".toList = false ∧
    (keysFrom 0 false "(a)(?(1)b|c)".toList).length = 2 := by decide

variable {spaced inClass : Bool} {spot spot' spot'' : Spot} {c : Char} {t u rest : Text}

theorem isLegibleFrom_cons (plain : c ≠ '\\') (spot : Spot) (rest : Text) :
    isLegibleFrom spaced spot (c :: rest) =
      (allows spaced spot c rest && isLegibleFrom spaced (spot.next c rest) rest) := by
  rw [isLegibleFrom]
  rintro d behind ⟨⟩
  exact absurd rfl plain

/-- No key is listed at a character, except at a `(` outside of sets. -/
theorem keysFrom_cons (plain : c ≠ '\\') (within : c = '(' → inClass = true) (ordinal : Nat)
    (rest : Text) :
    keysFrom ordinal inClass (c :: rest) =
      keysFrom ordinal (if c = '[' then true else if c = ']' then false else inClass) rest := by
  by_cases group : c = '('
  · subst group
    rw [within rfl]
    rfl
  · by_cases opens : c = '['
    · subst opens
      rfl
    · by_cases closes : c = ']'
      · subst closes
        rfl
      · rw [if_neg opens, if_neg closes, keysFrom] <;> simp_all

/-- Where the spot allows a character, the look at the brackets knows whether it leads into a set. -/
theorem inClass_next (allowed : allows spaced spot c rest = true) :
    (spot.next c rest).inClass = if c = '[' then true else if c = ']' then false else spot.inClass := by
  cases spot <;> simp only [allows, Spot.next, Spot.inClass] at * <;> grind

/-- What is legible from a spot on stays so up to another spot, and no key is listed between them. -/
def Passes (spaced : Bool) (spot : Spot) (t : Text) (spot' : Spot) (rest : Text) : Prop :=
  isLegibleFrom spaced spot t = true →
    isLegibleFrom spaced spot' rest = true ∧
      ∀ ordinal, keysFrom ordinal spot.inClass t = keysFrom ordinal spot'.inClass rest

namespace Passes

theorem refl (spot : Spot) (t : Text) : Passes spaced spot t spot t := fun legible => ⟨legible, fun _ => rfl⟩

theorem trans (first : Passes spaced spot t spot' u) (second : Passes spaced spot' u spot'' rest) :
    Passes spaced spot t spot'' rest := by
  intro legible
  obtain ⟨legible', same⟩ := first legible
  obtain ⟨legible'', same'⟩ := second legible'
  exact ⟨legible'', fun ordinal => (same ordinal).trans (same' ordinal)⟩

theorem escape (spot : Spot) (c : Char) (rest : Text) :
    Passes spaced spot ('\\' :: c :: rest) spot.settled rest := by
  intro legible
  have known : spot.settled.inClass = spot.inClass := by cases spot <;> rfl
  exact ⟨legible, fun ordinal => by rw [known]; rfl⟩

theorem char (plain : c ≠ '\\') (inside : c = '(' → spot ≠ .outside) (rest : Text) :
    Passes spaced spot (c :: rest) (spot.next c rest) rest := by
  intro legible
  rw [isLegibleFrom_cons plain, Bool.and_eq_true] at legible
  have within : c = '(' → spot.inClass = true := by
    rintro rfl
    have allowed := legible.1
    cases spot with
    | outside => exact absurd rfl (inside rfl)
    | opening caret => rfl
    | comment opened | set depth opened => simpa [allows, Spot.inClass] using allowed
  exact ⟨legible.2, fun ordinal => by rw [inClass_next legible.1, keysFrom_cons plain within]⟩

end Passes

theorem passes_commentStart (rest : Text) :
    Passes spaced .outside ('(' :: '?' :: '#' :: rest) (.comment false) rest := by
  have within : Passes spaced (.comment false) ('?' :: '#' :: rest) (.comment false) rest :=
    (Passes.char (by simp) (by simp) _).trans (.char (by simp) (by simp) _)
  intro legible
  rw [isLegibleFrom_cons (by simp), Bool.and_eq_true] at legible
  obtain ⟨legible', same⟩ := within legible.2
  exact ⟨legible', fun ordinal => same ordinal⟩

/-- Behind the `[` of a set, nothing but a `^` or a `]` is special. -/
theorem passes_opening (caret : Bool) (notCaret : caret = true → t.head? ≠ some '^')
    (notClosed : t.head? ≠ some ']') :
    Passes spaced (.opening caret) t (.set 1 true) t := by
  intro legible
  refine ⟨?_, fun _ => rfl⟩
  cases t with
  | nil => rfl
  | cons c t =>
    rw [List.head?_cons, ne_eq, Option.some.injEq] at notClosed
    by_cases escape : c = '\\'
    · subst escape
      cases t with
      | nil => rfl
      | cons d t => exact legible
    · rw [isLegibleFrom_cons escape] at legible ⊢
      have same : (Spot.opening caret).next c t = (Spot.set 1 true).next c t := by
        cases caret with
        | false => simp [Spot.next, notClosed]
        | true =>
          have other : c ≠ '^' := by simpa using notCaret rfl
          simp [Spot.next, notClosed, other]
      rw [← same]
      simpa [allows] using legible

/-- What the reader runs over is passed. A legible notation has no comments up to the end of a line. -/
theorem passes_of_walks (walks : Walks spaced spot t spot' rest) : Passes spaced spot t spot' rest := by
  have noLine : ∀ t, spaced = true → isLegibleFrom spaced .outside ('#' :: t) ≠ true := by
    rintro t rfl legible
    rw [isLegibleFrom_cons (by simp)] at legible
    cases legible
  induction walks with
  | done spot t => exact .refl spot t
  | escape c _ ih => exact (Passes.escape _ c _).trans ih
  | char plain inside _ ih => exact (Passes.char plain inside _).trans ih
  | comment _ ih => exact (passes_commentStart _).trans ih
  | line spaces | lastLine spaces => exact fun legible => absurd legible (noLine _ spaces)
  | enter caret notCaret notClosed _ ih => exact (passes_opening caret notCaret notClosed).trans ih

end Matcher

end RoutePattern
