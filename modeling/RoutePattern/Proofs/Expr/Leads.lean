import RoutePattern.Proofs.Expr.Ways

/-! # Where an expression leads

`Expr.Leads` says from which place to which a match of an expression may go, with no engine and no
captures. Iterations that take nothing are allowed here; as they lead nowhere, they can be left out
(`Steps.advancing`). The ways through a tame expression lead to just these places
(`mem_places_iff_leads`).
-/

namespace RoutePattern

namespace Place

/-- From one place to another in so many steps. -/
inductive Steps (R : Place → Place → Prop) : Nat → Place → Place → Prop where
  | none (p : Place) : Steps R 0 p p
  | next {n : Nat} {p r q : Place} (first : R p r) (rest : Steps R n r q) : Steps R (n + 1) p q

/-- A step that takes characters. -/
def Advancing (R : Place → Place → Prop) (p q : Place) : Prop := R p q ∧ p.index < q.index

/-- Steps stay on the text and do not go back. -/
structure Moves (subject : Text) (R : Place → Place → Prop) : Prop where
  on : ∀ {p q : Place}, p.On subject → R p q → q.On subject
  index : ∀ {p q : Place}, R p q → p.index ≤ q.index

section Steps

variable {subject : Text} {R : Place → Place → Prop} {m n : Nat} {p q r : Place}

theorem steps_zero : Steps R 0 p q ↔ q = p := by
  constructor
  · rintro ⟨⟩
    rfl
  · rintro rfl
    exact .none q

theorem steps_succ : Steps R (n + 1) p q ↔ ∃ r, R p r ∧ Steps R n r q := by
  constructor
  · rintro ⟨⟩
    exact ⟨_, ‹_›, ‹_›⟩
  · rintro ⟨r, first, rest⟩
    exact .next first rest

theorem steps_add : Steps R (m + n) p q ↔ ∃ r, Steps R m p r ∧ Steps R n r q := by
  induction m generalizing p with
  | zero => simp [steps_zero]
  | succ m ih =>
    simp only [Nat.succ_add, steps_succ, ih]
    constructor
    · rintro ⟨s, first, r, front, back⟩
      exact ⟨r, ⟨s, first, front⟩, back⟩
    · rintro ⟨r, ⟨s, first, front⟩, back⟩
      exact ⟨s, first, r, front, back⟩

theorem Steps.on (moves : Moves subject R) (steps : Steps R n p q) (on : p.On subject) :
    q.On subject := by
  induction steps with
  | none => exact on
  | next first _ ih => exact ih (moves.on on first)

theorem Steps.index {least : Nat} (takes : ∀ {p q}, R p q → p.index + least ≤ q.index)
    (steps : Steps R n p q) : p.index + least * n ≤ q.index := by
  induction steps with
  | none p => simp
  | next first _ ih =>
    have here := takes first
    rw [Nat.mul_succ]
    omega

theorem Steps.index_eq {width : Nat} (takes : ∀ {p q}, R p q → q.index = p.index + width)
    (steps : Steps R n p q) : q.index = p.index + width * n := by
  induction steps with
  | none p => simp
  | next first _ ih =>
    rw [ih, takes first, Nat.mul_succ]
    omega

theorem Steps.le_index (steps : Steps (Advancing R) n p q) : p.index + n ≤ q.index := by
  have takes : ∀ {p q}, Advancing R p q → p.index + 1 ≤ q.index := And.right
  have bound := steps.index takes
  omega

theorem Steps.index_le (moves : Moves subject R) (steps : Steps R n p q) : p.index ≤ q.index := by
  induction steps with
  | none => exact Nat.le_refl _
  | next first _ ih => exact Nat.le_trans (moves.index first) ih

theorem Moves.advancing (moves : Moves subject R) : Moves subject (Advancing R) where
  on := fun on step => moves.on on step.1
  index := fun step => moves.index step.1

/-- A step that takes nothing stays where it is. -/
theorem Moves.eq_or_advancing (moves : Moves subject R) (on : p.On subject) (step : R p q) :
    q = p ∨ Advancing R p q := by
  rcases Nat.eq_or_lt_of_le (moves.index step) with same | further
  · exact .inl ((moves.on on step).eq_of_index on same.symm)
  · exact .inr ⟨step, further⟩

/-- Steps that take nothing can be left out. -/
theorem Steps.advancing (moves : Moves subject R) (steps : Steps R n p q) (on : p.On subject) :
    ∃ k ≤ n, Steps (Advancing R) k p q := by
  induction steps with
  | none p => exact ⟨0, Nat.le_refl 0, .none p⟩
  | next first _ ih =>
    obtain ⟨k, fewer, rest⟩ := ih (moves.on on first)
    rcases moves.eq_or_advancing on first with rfl | step
    · exact ⟨k, Nat.le_succ_of_le fewer, rest⟩
    · exact ⟨k + 1, Nat.succ_le_succ fewer, .next step rest⟩

theorem Steps.of_advancing (steps : Steps (Advancing R) n p q) : Steps R n p q := by
  induction steps with
  | none p => exact .none p
  | next first _ ih => exact .next first.1 ih

end Steps

theorem pass?_singleton {p q : Place} {c : Char} : p.pass? [c] = some q ↔ p.next? = some (c, q) := by
  rw [pass?]
  cases p.next? with
  | none => simp
  | some step =>
    obtain ⟨d, r⟩ := step
    simp [pass?, eq_comm (a := c)]

theorem On.next? {subject : Text} {p q : Place} {c : Char} (on : p.On subject)
    (found : p.next? = some (c, q)) : q.On subject :=
  on.pass? (pass?_singleton.2 found)

theorem next?_index {p q : Place} {c : Char} (found : p.next? = some (c, q)) :
    q.index = p.index + 1 := by
  obtain ⟨rest, -, rfl⟩ := pass?_eq_some.1 (pass?_singleton.2 found)
  rfl

end Place

namespace Thread

/-- Iterations between two numbers are some number of iterations in between. -/
theorem mem_iterations {body : Thread → List Thread} {greedy : Bool} {spare low : Nat}
    {t u : Thread} :
    u ∈ iterations body greedy spare low t ↔
      ∃ n, low ≤ n ∧ n ≤ low + spare ∧ u ∈ iterations body greedy 0 n t := by
  induction low generalizing t with
  | zero =>
    simp only [iterations, Nat.zero_le, true_and, Nat.zero_add]
    induction spare generalizing t with
    | zero =>
      simp only [Nat.le_zero, exists_eq_left]
      rfl
    | succ spare ih =>
      simp only [atMost, mem_prefer, List.mem_flatMap, ih, List.mem_singleton]
      constructor
      · rintro (⟨v, first, n, bound, rest⟩ | rfl)
        · exact ⟨n + 1, by omega, List.mem_flatMap.2 ⟨v, first, rest⟩⟩
        · exact ⟨0, by omega, List.mem_singleton_self u⟩
      · rintro ⟨n, bound, member⟩
        cases n with
        | zero => exact .inr (List.mem_singleton.1 member)
        | succ n =>
          obtain ⟨v, first, rest⟩ := List.mem_flatMap.1 member
          exact .inl ⟨v, first, n, by omega, rest⟩
  | succ low ih =>
    simp only [iterations, List.mem_flatMap, ih]
    constructor
    · rintro ⟨v, first, n, least, bound, rest⟩
      exact ⟨n + 1, by omega, by omega, List.mem_flatMap.2 ⟨v, first, rest⟩⟩
    · rintro ⟨n, least, bound, member⟩
      obtain ⟨m, rfl⟩ : ∃ m, n = m + 1 := ⟨n - 1, by omega⟩
      obtain ⟨v, first, rest⟩ := List.mem_flatMap.1 member
      exact ⟨v, first, m, by omega, by omega, rest⟩

end Thread

namespace Expr

open Place (Moves Steps steps_zero steps_succ)

/-- A match of the expression may go from the first place to the second. Of look-around only the
positive one ahead leads anywhere, and atomic groups and references do not. -/
def Leads : Expr → Place → Place → Prop
  | empty, p, q => q = p
  | char s, p, q => ∃ c, s.has c = true ∧ p.next? = some (c, q)
  | anchor a, p, q => a.holds p = true ∧ q = p
  | seq a b, p, q => ∃ r, a.Leads p r ∧ b.Leads r q
  | alt a b, p, q => a.Leads p q ∨ b.Leads p q
  | enclosed a, p, q | group _ a, p, q => a.Leads p q
  | rep a low high _, p, q => ∃ n, low ≤ n ∧ high.all (n ≤ ·) = true ∧ Steps a.Leads n p q
  | look .ahead false a, p, q => q = p ∧ ∃ r, a.Leads p r
  | look _ _ _, _, _ | atomic _, _, _ | backref _, _, _ => False

section Leads

variable {subject : Text} {e : Expr} {p q : Place}

theorem Leads.on (leads : e.Leads p q) (on : p.On subject) : q.On subject := by
  induction e generalizing p q with
  | empty => exact leads ▸ on
  | char s =>
    obtain ⟨c, -, found⟩ := leads
    exact on.next? found
  | anchor a => exact leads.2 ▸ on
  | seq a b first second =>
    obtain ⟨r, front, back⟩ := leads
    exact second back (first front on)
  | alt a b first second =>
    rcases leads with left | right
    · exact first left on
    · exact second right on
  | enclosed a ih | group n a ih => exact ih leads on
  | rep a low high greedy ih =>
    obtain ⟨n, -, -, steps⟩ := leads
    induction steps with
    | none => exact on
    | next first _ more => exact more (ih first on)
  | look d negative a ih =>
    cases d <;> cases negative <;> first | exact leads.1 ▸ on | cases leads
  | atomic a ih | backref n => cases leads

theorem Leads.index (leads : e.Leads p q) : p.index + e.minLength ≤ q.index := by
  induction e generalizing p q with
  | empty =>
    obtain rfl : q = p := leads
    exact Nat.le_refl _
  | char s =>
    obtain ⟨c, -, found⟩ := leads
    rw [Place.next?_index found]
    exact Nat.le_refl _
  | anchor a =>
    obtain ⟨-, rfl⟩ := leads
    exact Nat.le_refl _
  | seq a b first second =>
    obtain ⟨r, front, back⟩ := leads
    have here := first front
    have there := second back
    simp only [minLength]
    omega
  | alt a b first second =>
    simp only [minLength]
    rcases leads with left | right
    · have here := first left
      omega
    · have here := second right
      omega
  | enclosed a ih | group n a ih => exact ih leads
  | rep a low high greedy ih =>
    obtain ⟨n, least, -, steps⟩ := leads
    have bound := steps.index ih
    have enough : a.minLength * low ≤ a.minLength * n := Nat.mul_le_mul_left _ least
    simp only [minLength]
    omega
  | look d negative a ih =>
    cases d <;> cases negative <;> try cases leads
    rename_i same ahead
    rw [same]
    exact Nat.le_refl _
  | atomic a ih | backref n => cases leads

theorem Leads.index_eq (fixed : e.fixedLength = true) (leads : e.Leads p q) :
    q.index = p.index + e.minLength := by
  induction e generalizing p q with
  | empty =>
    obtain rfl : q = p := leads
    rfl
  | char s =>
    obtain ⟨c, -, found⟩ := leads
    exact Place.next?_index found
  | anchor a =>
    obtain ⟨-, rfl⟩ := leads
    rfl
  | seq a b first second =>
    simp only [fixedLength, Bool.and_eq_true] at fixed
    obtain ⟨r, front, back⟩ := leads
    rw [second fixed.2 back, first fixed.1 front, minLength, Nat.add_assoc]
  | alt a b first second =>
    simp only [fixedLength, Bool.and_eq_true, beq_iff_eq] at fixed
    rw [minLength, ← fixed.2, Nat.min_self]
    rcases leads with left | right
    · exact first fixed.1.1 left
    · rw [fixed.2]
      exact second fixed.1.2 right
  | enclosed a ih | group n a ih => exact ih fixed leads
  | rep a low high greedy ih =>
    simp only [fixedLength, Bool.and_eq_true, beq_iff_eq] at fixed
    obtain ⟨n, least, most, steps⟩ := leads
    -- The range has only one count.
    obtain rfl : n = low := by
      simp only [fixed.2, Option.all_some, decide_eq_true_eq] at most
      omega
    exact steps.index_eq (ih fixed.1)
  | look d negative a ih =>
    cases d <;> cases negative <;> try cases leads
    rename_i same ahead
    rw [same]
    rfl
  | atomic a ih | backref n => cases leads

theorem moves_leads (e : Expr) (subject : Text) : Moves subject e.Leads where
  on := fun on leads => leads.on on
  index := fun leads => Nat.le_of_add_right_le leads.index

/-- A match that must take a number of characters leads to one place at most. -/
theorem Leads.unique (fixed : e.fixedLength = true) (on : p.On subject) {q' : Place}
    (leads : e.Leads p q) (leads' : e.Leads p q') : q = q' :=
  (leads.on on).eq_of_index (leads'.on on)
    ((leads.index_eq fixed).trans (leads'.index_eq fixed).symm)

/-! ## Sequences -/

theorem leads_ofParts_cons {es : List Expr} :
    (ofParts (e :: es)).Leads p q ↔ ∃ r, e.Leads p r ∧ (ofParts es).Leads r q := by
  cases es with
  | nil =>
    constructor
    · intro leads
      exact ⟨q, leads, rfl⟩
    · rintro ⟨r, leads, same⟩
      obtain rfl : q = r := same
      exact leads
  | cons e' es => exact Iff.rfl

theorem leads_ofParts_append {es es' : List Expr} :
    (ofParts (es ++ es')).Leads p q ↔
      ∃ r, (ofParts es).Leads p r ∧ (ofParts es').Leads r q := by
  induction es generalizing p with
  | nil =>
    constructor
    · intro leads
      exact ⟨p, rfl, leads⟩
    · rintro ⟨r, same, leads⟩
      obtain rfl : r = p := same
      exact leads
  | cons e es ih =>
    simp only [List.cons_append, leads_ofParts_cons, ih]
    constructor
    · rintro ⟨s, first, r, front, back⟩
      exact ⟨r, ⟨s, first, front⟩, back⟩
    · rintro ⟨r, ⟨s, first, front⟩, back⟩
      exact ⟨s, first, r, front, back⟩

/-! ## Ways -/

theorem Leads.length (leads : e.Leads p q) :
    q.index + q.after.length = p.index + p.after.length := by
  induction e generalizing p q with
  | empty =>
    obtain rfl : q = p := leads
    rfl
  | char s =>
    obtain ⟨c, -, found⟩ := leads
    obtain ⟨rest, after, rfl⟩ := Place.pass?_eq_some.1 (Place.pass?_singleton.2 found)
    simp [after, Nat.add_assoc, Nat.add_comm 1]
  | anchor a =>
    obtain ⟨-, rfl⟩ := leads
    rfl
  | seq a b first second =>
    obtain ⟨r, front, back⟩ := leads
    exact (second back).trans (first front)
  | alt a b first second =>
    rcases leads with left | right
    · exact first left
    · exact second right
  | enclosed a ih | group n a ih => exact ih leads
  | rep a low high greedy ih =>
    obtain ⟨n, -, -, steps⟩ := leads
    induction steps with
    | none => rfl
    | next first _ more => exact more.trans (ih first)
  | look d negative a ih =>
    cases d <;> cases negative <;> try cases leads
    rename_i same ahead
    rw [same]
  | atomic a ih | backref n => cases leads

theorem places_seq (a b : Expr) (p : Place) :
    (seq a b).places p = (a.places p).flatMap b.places := by
  simp only [places, ways, List.map_flatMap, List.flatMap_map]
  exact List.flatMap_congr fun u _ => b.ways_map_place u

theorem places_alt (a b : Expr) (p : Place) : (alt a b).places p = a.places p ++ b.places p := by
  simp [places, ways]

theorem places_group (n : Nat) (a : Expr) (p : Place) : (group n a).places p = a.places p := by
  simp only [places, ways, List.map_map, Function.comp_def, Thread.closeGroup_place]
  exact a.ways_placed rfl

/-- So many iterations are so many steps. -/
theorem mem_iterations_iff_steps {a : Expr} (body : ∀ {p q}, q ∈ a.places p ↔ a.Leads p q)
    {greedy : Bool} {n : Nat} {t : Thread} :
    q ∈ (Thread.iterations a.ways greedy 0 n t).map (·.place) ↔ Steps a.Leads n t.place q := by
  induction n generalizing t with
  | zero => simp [Thread.iterations, Thread.atMost, steps_zero]
  | succ n ih =>
    simp only [Thread.iterations, List.map_flatMap, List.mem_flatMap, ih, steps_succ]
    constructor
    · rintro ⟨u, inside, steps⟩
      exact ⟨u.place, body.1 (a.ways_map_place t ▸ List.mem_map_of_mem inside), steps⟩
    · rintro ⟨r, first, steps⟩
      rw [← body, ← a.ways_map_place, List.mem_map] at first
      obtain ⟨u, inside, rfl⟩ := first
      exact ⟨u, inside, steps⟩

/-- Where each iteration takes characters, the text ahead allows as many as are listed. -/
theorem le_spare_of_steps {a : Expr} {low n : Nat} {high : Option Nat} (takes : 0 < a.minLength)
    (most : high.all (n ≤ ·) = true) (steps : Steps a.Leads n p q)
    (length : q.index + q.after.length = p.index + p.after.length) :
    n ≤ low + spare low high (.ofPlace p) := by
  cases high with
  | some high =>
    simp only [Option.all_some, decide_eq_true_eq] at most
    simp only [spare, Option.elim_some]
    omega
  | none =>
    have bound := steps.index Leads.index
    have enough : n ≤ a.minLength * n := Nat.le_mul_of_pos_left n takes
    simp only [spare, Option.elim_none, Thread.ofPlace]
    omega

theorem within_of_le_spare {low n : Nat} {high : Option Nat} {t : Thread}
    (ordered : high.all (low ≤ ·) = true) (bound : n ≤ low + spare low high t) :
    high.all (n ≤ ·) = true := by
  cases high with
  | none => rfl
  | some high =>
    have least : low ≤ high := by simpa using ordered
    simp only [spare, Option.elim_some] at bound
    simp only [Option.all_some, decide_eq_true_eq]
    omega

/-- The ways through a tame expression lead where it leads. -/
theorem mem_places_iff_leads (tame : e.tame = true) : q ∈ e.places p ↔ e.Leads p q := by
  induction e generalizing p q with
  | empty => simp [places, ways, Leads, Thread.ofPlace]
  | char s =>
    simp only [places, ways, List.mem_map, Option.mem_toList, step?_eq_some, Leads,
      ← Place.pass?_singleton, Place.pass?_eq_some]
    constructor
    · rintro ⟨_, ⟨c, rest, after, held, rfl⟩, rfl⟩
      exact ⟨c, held, rest, after, rfl⟩
    · rintro ⟨c, held, rest, after, rfl⟩
      exact ⟨_, ⟨c, rest, after, held, rfl⟩, rfl⟩
  | anchor a =>
    by_cases holds : a.holds p = true <;> simp [places, ways, Leads, Thread.ofPlace, holds]
  | seq a b first second =>
    simp only [Expr.tame, Bool.and_eq_true] at tame
    simp only [places_seq, List.mem_flatMap, first tame.1, second tame.2, Leads]
  | alt a b first second =>
    simp only [Expr.tame, Bool.and_eq_true] at tame
    simp only [places_alt, List.mem_append, first tame.1, second tame.2, Leads]
  | enclosed a ih => exact ih tame
  | group n a ih =>
    simp only [Expr.tame, Bool.and_eq_true] at tame
    rw [places_group]
    exact ih tame.1
  | rep a low high greedy ih =>
    simp only [Expr.tame, Bool.and_eq_true, decide_eq_true_eq] at tame
    have steps : ∀ n, q ∈ (Thread.iterations a.ways greedy 0 n (.ofPlace p)).map (·.place) ↔
        Steps a.Leads n p q := fun n => mem_iterations_iff_steps (ih tame.1.1)
    simp only [places, ways, List.mem_map]
    constructor
    · rintro ⟨u, way, rfl⟩
      obtain ⟨n, least, bound, inside⟩ := Thread.mem_iterations.1 way
      exact ⟨n, least, within_of_le_spare tame.2 bound, (steps n).1 (List.mem_map_of_mem inside)⟩
    · intro leads
      have length := leads.length
      obtain ⟨n, least, most, course⟩ := leads
      obtain ⟨u, inside, same⟩ := List.mem_map.1 ((steps n).2 course)
      have bound : n ≤ low + spare low high (.ofPlace p) :=
        le_spare_of_steps tame.1.2 most course length
      exact ⟨u, Thread.mem_iterations.2 ⟨n, least, bound, inside⟩, same⟩
  | look d negative a ih =>
    cases d <;> cases negative <;>
      simp only [Expr.tame, Bool.and_eq_true, Bool.false_eq_true] at tame
    have inside : (∃ u, u ∈ a.ways (.ofPlace p)) ↔ ∃ r, a.Leads p r := by
      simp only [← ih tame.1.1, places, List.mem_map]
      constructor
      · rintro ⟨u, way⟩
        exact ⟨u.place, u, way, rfl⟩
      · rintro ⟨_, u, way, _⟩
        exact ⟨u, way⟩
    simp only [places, ways, List.map_map, List.mem_map, Leads, ← inside]
    constructor
    · rintro ⟨u, way, rfl⟩
      exact ⟨rfl, u, way⟩
    · rintro ⟨rfl, u, way⟩
      exact ⟨u, way, rfl⟩
  | atomic a | backref n => cases tame

end Leads

end Expr

end RoutePattern
