import Mathlib.Computability.Language
import RoutePattern.Proofs.Expr.Leads

/-! # The texts that an expression matches

Where an expression neither asks for anchors nor looks around, it leads behind the texts of its language
(`leads_iff_language`), and so do its ways (`mem_places_iff`).
-/

namespace RoutePattern

namespace Expr

/-- The expression asks for no anchor, does not look around and refers to nothing. -/
def isAnchorless : Expr → Bool
  | empty | char _ => true
  | seq a b | alt a b => a.isAnchorless && b.isAnchorless
  | enclosed a | group _ a | rep a _ _ _ => a.isAnchorless
  | anchor _ | look _ _ _ | atomic _ | backref _ => false

theorem needsSearch_of_anchorless {e : Expr} (anchorless : e.isAnchorless = true) :
    e.needsSearch [] = false := by
  induction e with
  | empty | char s => rfl
  | seq a b first second | alt a b first second =>
    simp only [isAnchorless, Bool.and_eq_true] at anchorless
    simp [needsSearch, first anchorless.1, second anchorless.2]
  | enclosed a ih | rep a low high greedy ih => exact ih anchorless
  | group n a ih => simpa [needsSearch] using ih anchorless
  | anchor a | look d negative a | atomic a | backref n => cases anchorless

theorem isAnchorless_ofParts (es : List Expr) :
    (ofParts es).isAnchorless = es.all (·.isAnchorless) := by
  induction es with
  | nil => rfl
  | cons e es ih =>
    cases es with
    | nil => simp [ofParts]
    | cons e' es => simp only [ofParts, isAnchorless, ih, List.all_cons]

/-- The texts that an anchorless expression matches. -/
def language : Expr → Language Char
  | empty => 1
  | char s => {m | ∃ c, s.has c = true ∧ m = [c]}
  | seq a b => a.language * b.language
  | alt a b => a.language + b.language
  | enclosed a | group _ a => a.language
  | rep a low high _ => {m | ∃ n, low ≤ n ∧ high.all (n ≤ ·) = true ∧ m ∈ a.language ^ n}
  | anchor _ | look _ _ _ | atomic _ | backref _ => 0

section Language

open Place (Steps steps_zero steps_succ)

variable {e : Expr} {p q : Place}

/-- A number of steps leads behind a text of that many parts. -/
theorem steps_iff_language {R : Place → Place → Prop} {L : Language Char}
    (body : ∀ {p q}, R p q ↔ ∃ m ∈ L, p.pass? m = some q) (n : Nat) :
    Steps R n p q ↔ ∃ m ∈ L ^ n, p.pass? m = some q := by
  induction n generalizing p with
  | zero => simp [steps_zero, Language.mem_one, Place.pass?, eq_comm]
  | succ n ih =>
    simp only [steps_succ, ih, body]
    constructor
    · rintro ⟨r, ⟨m, held, passed⟩, m', power, passed'⟩
      refine ⟨m ++ m', ?_, by simp [Place.pass?_append, passed, passed']⟩
      rw [pow_succ']
      exact Language.mem_mul.2 ⟨m, held, m', power, rfl⟩
    · rintro ⟨_, product, passed⟩
      rw [pow_succ'] at product
      obtain ⟨m, held, m', power, rfl⟩ := Language.mem_mul.1 product
      rw [Place.pass?_append] at passed
      obtain ⟨r, front, back⟩ := Option.bind_eq_some_iff.1 passed
      exact ⟨r, ⟨m, held, front⟩, m', power, back⟩

/-- An anchorless expression leads behind the texts of its language. -/
theorem leads_iff_language (anchorless : e.isAnchorless = true) :
    e.Leads p q ↔ ∃ m ∈ e.language, p.pass? m = some q := by
  induction e generalizing p q with
  | empty => simp [Leads, language, Language.mem_one, Place.pass?, eq_comm]
  | char s =>
    constructor
    · rintro ⟨c, held, found⟩
      exact ⟨[c], ⟨c, held, rfl⟩, Place.pass?_singleton.2 found⟩
    · rintro ⟨_, ⟨c, held, rfl⟩, passed⟩
      exact ⟨c, held, Place.pass?_singleton.1 passed⟩
  | seq a b first second =>
    simp only [isAnchorless, Bool.and_eq_true] at anchorless
    simp only [Leads, language, first anchorless.1, second anchorless.2]
    constructor
    · rintro ⟨r, ⟨m, left, passed⟩, m', right, passed'⟩
      exact ⟨m ++ m', Language.mem_mul.2 ⟨m, left, m', right, rfl⟩, by
        simp [Place.pass?_append, passed, passed']⟩
    · rintro ⟨_, product, passed⟩
      obtain ⟨m, left, m', right, rfl⟩ := Language.mem_mul.1 product
      rw [Place.pass?_append] at passed
      obtain ⟨r, front, back⟩ := Option.bind_eq_some_iff.1 passed
      exact ⟨r, ⟨m, left, front⟩, m', right, back⟩
  | alt a b first second =>
    simp only [isAnchorless, Bool.and_eq_true] at anchorless
    simp only [Leads, language, first anchorless.1, second anchorless.2, Language.mem_add,
      or_and_right, exists_or]
  | enclosed a ih | group n a ih => exact ih anchorless
  | rep a low high greedy ih =>
    simp only [Leads, steps_iff_language (ih anchorless)]
    constructor
    · rintro ⟨n, least, most, m, power, passed⟩
      exact ⟨m, ⟨n, least, most, power⟩, passed⟩
    · rintro ⟨m, ⟨n, least, most, power⟩, passed⟩
      exact ⟨n, least, most, m, power, passed⟩
  | anchor a | look d negative a | atomic a | backref n => cases anchorless

/-- The ways through a tame expression lead behind the texts of its language. -/
theorem mem_places_iff (tame : e.tame = true) (anchorless : e.isAnchorless = true) :
    q ∈ e.places p ↔ ∃ m ∈ e.language, p.pass? m = some q :=
  (mem_places_iff_leads tame).trans (leads_iff_language anchorless)

end Language

end Expr

end RoutePattern
