import RoutePattern.Proofs.Expr.Renumber

/-! # Alternatives

An alternation has the ways of its first alternative, then those of the second one, and so on
(`ways_ofAlternatives`). Where each alternative has a program, so has the alternation, unless it is to be
settled as a whole and is too large for that (`exists_ofNotated?_ofAlternatives`). This holds even if
only some of the alternatives need a search: then the others are planned as well, and every part of an
expression that can be settled as a whole can be settled alone.
-/

namespace RoutePattern.Expr

/-- Every repetition may be made once. -/
def isLive : Expr → Bool
  | empty | char _ | anchor _ | backref _ => true
  | seq a b | alt a b => a.isLive && b.isLive
  | enclosed a | group _ a | look _ _ a | atomic a => a.isLive
  | rep a _ high _ => a.isLive && high != some 0

theorem isLive_ofParts (es : List Expr) : (ofParts es).isLive = es.all (·.isLive) := by
  induction es with
  | nil => rfl
  | cons e es ih =>
    cases es with
    | nil => simp [ofParts]
    | cons e' es => simp only [ofParts, isLive, ih, List.all_cons]

/-- What is tame has no range of counts that is empty. -/
theorem ordered_of_tame {e : Expr} (tame : e.tame = true) : e.ordered = true := by
  induction e with
  | empty | char s | anchor a => rfl
  | seq a b first second | alt a b first second =>
    simp only [Expr.tame, Bool.and_eq_true] at tame
    simp only [ordered, first tame.1, second tame.2, Bool.and_self]
  | enclosed a ih => exact ih tame
  | group n a ih =>
    simp only [Expr.tame, Bool.and_eq_true] at tame
    exact ih tame.1
  | rep a low high greedy ih =>
    simp only [Expr.tame, Bool.and_eq_true] at tame
    cases high with
    | none => simp [ordered, ih tame.1.1]
    | some high => simpa [ordered, ih tame.1.1] using tame.2
  | look d negative a ih =>
    cases d <;> cases negative <;> simp only [Expr.tame, Bool.and_eq_true, Bool.false_eq_true] at tame
    exact ih tame.1.1
  | atomic a | backref n => cases tame

section Plans

variable {a b : Expr}

/-- An iteration takes no more steps than all of them. -/
theorem writtenSize_le_rep {low : Nat} {high : Option Nat} {greedy : Bool}
    (range : high.all (low ≤ ·) = true) (live : high ≠ some 0) :
    a.writtenSize ≤ (rep a low high greedy).writtenSize := by
  have once : a.writtenSize ≤ max 1 a.writtenSize := Nat.le_max_right 1 _
  cases high with
  | none =>
    simp only [writtenSize]
    have several : 1 * max 1 a.writtenSize ≤ max 1 low * max 1 a.writtenSize :=
      Nat.mul_le_mul_right _ (Nat.le_max_left 1 low)
    omega
  | some high =>
    simp only [Option.all_some, decide_eq_true_eq] at range
    simp only [writtenSize]
    have positive : high ≠ 0 := fun none => live (by rw [none])
    cases low with
    | zero =>
      have several : 1 * (max 1 a.writtenSize + 1) ≤ high * (max 1 a.writtenSize + 1) :=
        Nat.mul_le_mul_right _ (Nat.pos_of_ne_zero positive)
      rw [Nat.sub_zero]
      omega
    | succ low =>
      rw [Nat.succ_mul]
      omega

theorem max_le_writtenSize_alt (a b : Expr) :
    max a.writtenSize b.writtenSize ≤ (alt a b).writtenSize := by
  simp only [writtenSize]
  split
  · exact Nat.le_max_left _ _
  · exact Nat.le_refl _

/-- The size of an expression that can be settled is that of all its parts together at least, so
each of them can be settled, and the whole can be planned in any way. -/
theorem isSome_ofExpr? {e : Expr} (tame : e.tame = true) (live : e.isLive = true)
    (small : e.isSettleable = true) (searched : Bool) (role : Plan.Role) :
    (Plan.ofExpr? [] searched role e).isSome = true := by
  have within : ∀ {a b : Expr}, a.isSettleable = true → b.ordered = true →
      b.writtenSize ≤ a.writtenSize → b.isSettleable = true := by
    intro a b settleable ordered smaller
    simp only [isSettleable, Bool.and_eq_true, decide_eq_true_eq] at settleable ⊢
    exact ⟨ordered, Nat.le_trans (Nat.add_le_add_right smaller 4) settleable.2⟩
  have ordered : e.ordered = true := by
    simp only [isSettleable, Bool.and_eq_true] at small
    exact small.1
  have settled : (Plan.settle? e).isSome = true := (isSome_settle? e).trans small
  induction e generalizing searched role with
  | empty | char s | anchor a => rfl
  | seq a b first second =>
    simp only [Expr.tame, isLive, Expr.ordered, Bool.and_eq_true] at tame live ordered
    have front : a.isSettleable = true := within small ordered.1 (Nat.le_add_right _ _)
    have back : b.isSettleable = true := within small ordered.2 (Nat.le_add_left _ _)
    have front' : (Plan.settle? a).isSome = true := (isSome_settle? a).trans front
    have back' : (Plan.settle? b).isSome = true := (isSome_settle? b).trans back
    rw [Plan.ofExpr?]
    split
    · exact settled
    · split
      · rw [isSome_both, front', second tame.2 live.2 back _ _ ordered.2 back']
        rfl
      · rw [isSome_both, first tame.1 live.1 front _ _ ordered.1 front',
          second tame.2 live.2 back _ _ ordered.2 back']
        rfl
  | alt a b first second =>
    simp only [Expr.tame, isLive, Expr.ordered, Bool.and_eq_true] at tame live ordered
    have left : a.isSettleable = true := within small ordered.1 (Nat.max_le.1 (max_le_writtenSize_alt a b)).1
    have right : b.isSettleable = true := within small ordered.2 (Nat.max_le.1 (max_le_writtenSize_alt a b)).2
    rw [Plan.ofExpr?]
    split
    · exact settled
    · rw [isSome_both,
        first tame.1 live.1 left _ _ ordered.1 ((isSome_settle? a).trans left),
        second tame.2 live.2 right _ _ ordered.2 ((isSome_settle? b).trans right)]
      rfl
  | enclosed a ih =>
    have inside : a.isSettleable = true := within small ordered (Nat.le_refl _)
    rw [Plan.ofExpr?]
    split
    · exact settled
    · exact ih tame live inside _ _ ordered ((isSome_settle? a).trans inside)
  | group n a ih =>
    simp only [Expr.tame, Bool.and_eq_true] at tame
    have inside : a.isSettleable = true := within small ordered (Nat.le_refl _)
    rw [Plan.ofExpr?]
    split
    · exact settled
    · rw [Option.isSome_map]
      exact ih tame.1 live inside _ _ ordered ((isSome_settle? a).trans inside)
  | rep a low high greedy ih =>
    simp only [Expr.tame, isLive, Expr.ordered, Bool.and_eq_true, bne_iff_ne, ne_eq] at tame live ordered
    have inside : a.isSettleable = true :=
      within small ordered.1 (writtenSize_le_rep tame.2 live.2)
    rw [Plan.ofExpr?]
    split
    · exact settled
    · rw [Option.isSome_map]
      exact ih tame.1.1 live.1 inside _ _ ordered.1 ((isSome_settle? a).trans inside)
  | look dir negative a ih =>
    cases dir <;> cases negative <;> simp only [Expr.tame, Bool.and_eq_true, Bool.false_eq_true] at tame
    have inside : a.isSettleable = true := within small ordered (Nat.le_refl _)
    rw [Plan.ofExpr?, Option.isSome_map]
    exact ih tame.1.1 live inside _ _ ordered ((isSome_settle? a).trans inside)
  | atomic a ih | backref n => cases tame

end Plans

/-! ## Several alternatives -/

/-- The alternatives in their order. -/
def ofAlternatives : List Expr → Expr
  | [] => empty
  | [a] => a
  | a :: rest => alt a (ofAlternatives rest)

variable {es : List Expr}

theorem ways_ofAlternatives (filled : es ≠ []) (t : Thread) :
    (ofAlternatives es).ways t = es.flatMap (·.ways t) := by
  induction es with
  | nil => exact absurd rfl filled
  | cons e es ih =>
    cases es with
    | nil => simp [ofAlternatives]
    | cons e' es =>
      have later := ih (List.cons_ne_nil e' es)
      simp only [ofAlternatives, ways, later, List.flatMap_cons]

theorem tame_ofAlternatives (es : List Expr) : (ofAlternatives es).tame = es.all (·.tame) := by
  induction es with
  | nil => rfl
  | cons e es ih =>
    cases es with
    | nil => simp [ofAlternatives]
    | cons e' es => simp only [ofAlternatives, tame, ih, List.all_cons]

theorem needsSearch_ofAlternatives (es : List Expr) :
    (ofAlternatives es).needsSearch [] = es.any (·.needsSearch []) := by
  induction es with
  | nil => rfl
  | cons e es ih =>
    cases es with
    | nil => simp [ofAlternatives]
    | cons e' es => simp only [ofAlternatives, needsSearch, ih, List.any_cons]

theorem isSome_ofExpr?_ofAlternatives
    (each : ∀ e ∈ es, (Plan.ofExpr? [] true .whole e).isSome = true) :
    (Plan.ofExpr? [] true .whole (ofAlternatives es)).isSome = true := by
  induction es with
  | nil => rfl
  | cons e es ih =>
    rw [List.forall_mem_cons] at each
    cases es with
    | nil => exact each.1
    | cons e' es =>
      -- Where a search takes place no alternation is settled as a whole.
      have open' : Plan.settles [] true .whole (alt e (ofAlternatives (e' :: es))) = false := by
        simp [Plan.settles]
      have role : (true || Plan.Role.whole != Plan.Role.whole) = true := rfl
      simp only [ofAlternatives, Plan.ofExpr?, open', Bool.false_eq_true, if_false, role, isSome_both,
        each.1, ih each.2, Bool.and_self]

/-- Alternatives that have programs have one together, if it stays within the limit on sizes where no
search is needed. -/
theorem exists_ofNotated?_ofAlternatives (tame : ∀ e ∈ es, e.tame = true)
    (live : ∀ e ∈ es, e.isLive = true)
    (each : ∀ e ∈ es, ∃ groups, (Program.ofNotated? ⟨e, groups, []⟩).isSome = true)
    (small : (enclosed (ofAlternatives es)).needsSearch [] = true ∨
      (enclosed (ofAlternatives es)).programSize ≤ sizeLimit) (groups : Nat) :
    ∃ p, Program.ofNotated? ⟨enclosed (ofAlternatives es), groups, []⟩ = some p := by
  have open' : Plan.settles [] true .whole (enclosed (ofAlternatives es)) = false := by
    simp [Plan.settles]
  rw [← Option.isSome_iff_exists]
  simp only [Program.ofNotated?, needsSearch, needsSearch_ofAlternatives] at small ⊢
  by_cases needed : es.any (·.needsSearch []) = true
  · rw [if_pos needed, Option.isSome_map, Plan.ofExpr?, open', if_neg (by simp)]
    refine isSome_ofExpr?_ofAlternatives fun e member => ?_
    obtain ⟨groups, compiled⟩ := each e member
    -- An alternative that needs no search could be settled, so it can be planned.
    simp only [Program.ofNotated?] at compiled
    split at compiled
    · rwa [Option.isSome_map] at compiled
    · split at compiled
      · rename_i small
        exact isSome_ofExpr? (tame e member) (live e member) small true .whole
      · cases compiled
  · have tame' : (enclosed (ofAlternatives es)).tame = true := by
      rw [Expr.tame, tame_ofAlternatives]
      exact List.all_eq_true.2 tame
    have whole : (enclosed (ofAlternatives es)).isSettleable = true := by
      simpa [isSettleable, ordered_of_tame tame'] using small.resolve_left needed
    rw [if_neg needed, whole]
    rfl

end RoutePattern.Expr
