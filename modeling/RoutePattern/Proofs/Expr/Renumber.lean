import RoutePattern.Proofs.Expr.Search

/-! # Groups under other numbers

An expression whose groups are numbered from a higher number on has the same ways, with what they
capture under the higher numbers (`ways_renumber`). Neither engine asks for the numbers, so it is
settled or planned just as before (`isSome_ofExpr?_renumber`).

Nothing but the groups of an expression is captured on its ways (`ways_capture?`).
-/

namespace RoutePattern

namespace Thread

/-- The same captures under numbers that are higher by `d`. -/
def renumber (d : Nat) (t : Thread) : Thread :=
  { t with captures := t.captures.map fun c => (c.1 + d, c.2) }

variable {d : Nat} {t : Thread}

@[simp] theorem renumber_index : (t.renumber d).index = t.index := rfl

theorem lookup_renumber (n : Nat) (captures : List (Nat × Capture)) :
    (captures.map fun c => (c.1 + d, c.2)).lookup (n + d) = captures.lookup n := by
  induction captures with
  | nil => rfl
  | cons c captures ih =>
    obtain ⟨m, held⟩ := c
    by_cases same : n = m
    · simp [same]
    · have other : n + d ≠ m + d := by omega
      simp only [List.map_cons, List.lookup_cons, beq_false_of_ne same, beq_false_of_ne other, ih]

theorem without_renumber (n : Nat) (captures : List (Nat × Capture)) :
    without [n + d] (captures.map fun c => (c.1 + d, c.2)) =
      (without [n] captures).map fun c => (c.1 + d, c.2) := by
  simp [without, List.filter_map, Function.comp_def]

theorem capture?_renumber (n : Nat) : (t.renumber d).capture? (n + d) = t.capture? n :=
  lookup_renumber n t.captures

theorem text?_renumber (n : Nat) : (t.renumber d).text? (n + d) = t.text? n := by
  simp only [text?, capture?_renumber]

theorem openGroup_renumber (n : Nat) :
    (t.renumber d).openGroup (n + d) = (t.openGroup n).renumber d := by
  simp only [openGroup, capture?_renumber]
  simp only [renumber, without_renumber, List.map_cons]

theorem closeGroup_renumber (n : Nat) :
    (t.renumber d).closeGroup (n + d) = (t.closeGroup n).renumber d := by
  simp only [closeGroup, capture?_renumber]
  cases t.capture? n with
  | none => rfl
  | some c =>
    simp only [renumber_index]
    simp only [renumber, without_renumber, List.map_cons]

theorem step?_renumber (s : CharSet) : (t.renumber d).step? s = (t.step? s).map (renumber d) := by
  simp only [step?, renumber]
  cases t.place.next? with
  | none => rfl
  | some next =>
    obtain ⟨c, q⟩ := next
    by_cases held : s.has c = true <;> simp [held, renumber]

theorem capture?_openGroup {n m : Nat} (other : m ≠ n) :
    (t.openGroup n).capture? m = t.capture? m := by
  simp [openGroup, capture?, List.lookup_cons, beq_false_of_ne other, lookup_without other]

theorem capture?_closeGroup {n m : Nat} (other : m ≠ n) :
    (t.closeGroup n).capture? m = t.capture? m := by
  unfold closeGroup
  split
  · simp [capture?, List.lookup_cons, beq_false_of_ne other, lookup_without other]
  · rfl

end Thread

namespace Expr

/-- The same expression with numbers of groups that are higher by `d`. -/
@[simp] def renumber (d : Nat) : Expr → Expr
  | empty => empty
  | char s => char s
  | anchor a => anchor a
  | seq a b => seq (a.renumber d) (b.renumber d)
  | alt a b => alt (a.renumber d) (b.renumber d)
  | enclosed a => enclosed (a.renumber d)
  | group n a => group (n + d) (a.renumber d)
  | rep a low high greedy => rep (a.renumber d) low high greedy
  | look dir negative a => look dir negative (a.renumber d)
  | atomic a => atomic (a.renumber d)
  | backref n => backref (n + d)

section Renumber

variable {d : Nat} {e : Expr}

theorem renumber_ofParts (es : List Expr) :
    (ofParts es).renumber d = ofParts (es.map (·.renumber d)) := by
  induction es with
  | nil => rfl
  | cons e es ih =>
    cases es with
    | nil => rfl
    | cons e' es => simp only [ofParts, renumber, List.map_cons, ih]

theorem groups_renumber (e : Expr) : (e.renumber d).groups = e.groups.map (· + d) := by
  induction e <;> simp_all [renumber, groups]

/-- There is nothing to number in an expression without groups. -/
theorem renumber_of_groupless (tame : e.tame = true) (groupless : e.groups = []) :
    e.renumber d = e := by
  induction e with
  | empty | char s | anchor a => rfl
  | seq a b first second | alt a b first second =>
    simp only [Expr.tame, groups, Bool.and_eq_true, List.append_eq_nil_iff] at tame groupless
    simp only [renumber, first tame.1 groupless.1, second tame.2 groupless.2]
  | enclosed a ih => rw [renumber, ih tame groupless]
  | group n a ih => cases groupless
  | rep a low high greedy ih =>
    simp only [Expr.tame, Bool.and_eq_true] at tame
    rw [renumber, ih tame.1.1 groupless]
  | look dir negative a ih =>
    cases dir <;> cases negative <;> simp only [Expr.tame, Bool.and_eq_true, Bool.false_eq_true] at tame
    rw [renumber, ih tame.1.1 groupless]
  | atomic a ih | backref n => cases tame

/-! ## What does not ask for numbers -/

@[simp] theorem minLength_renumber (e : Expr) : (e.renumber d).minLength = e.minLength := by
  induction e <;> simp_all [renumber, minLength]

@[simp] theorem fixedLength_renumber (e : Expr) : (e.renumber d).fixedLength = e.fixedLength := by
  induction e <;> simp_all [renumber, fixedLength]

@[simp] theorem needsSearch_renumber (e : Expr) :
    (e.renumber d).needsSearch [] = e.needsSearch [] := by
  induction e <;> simp_all [renumber, needsSearch]

@[simp] theorem initials?_renumber (passed : Bool) (e : Expr) :
    (e.renumber d).initials? passed = e.initials? passed := by
  have asserts : ∀ a : Expr, (a.renumber d).isAnchor = a.isAnchor := by
    intro a
    cases a <;> rfl
  induction e generalizing passed with
  | seq a b first second => simp only [renumber, initials?, asserts, first, second]
  | alt a b first second => simp only [renumber, initials?, first, second]
  | enclosed a ih => exact ih passed
  | empty | char s | anchor a | group n a | rep a low high greedy | look dir negative a | atomic a
  | backref n => rfl

@[simp] theorem startApart_renumber (a b : Expr) :
    (a.renumber d).startApart (b.renumber d) = a.startApart b := by
  rw [startApart, initials?_renumber, initials?_renumber, startApart]

@[simp] theorem writtenSize_renumber (e : Expr) :
    (e.renumber d).writtenSize = e.writtenSize := by
  induction e <;> simp_all [renumber, writtenSize]

@[simp] theorem isSettleable_renumber (e : Expr) :
    (e.renumber d).isSettleable = e.isSettleable := by
  have ordered : (e.renumber d).ordered = e.ordered := by
    induction e <;> simp_all [renumber, Expr.ordered]
  rw [isSettleable, programSize, ordered, writtenSize_renumber, isSettleable, programSize]

@[simp] theorem tame_renumber (e : Expr) : (e.renumber d).tame = e.tame := by
  induction e with
  | look dir negative a ih =>
    cases dir <;> cases negative <;> simp [renumber, tame, ih, groups_renumber]
  | _ => simp_all [renumber, tame]

/-! ## Ways -/

theorem ways_renumber (e : Expr) (t : Thread) :
    (e.renumber d).ways (t.renumber d) = (e.ways t).map (.renumber d) := by
  induction e generalizing t with
  | empty => rfl
  | char s => simp only [renumber, ways, Thread.step?_renumber, Option.toList_map]
  | anchor a =>
    have place : (t.renumber d).place = t.place := rfl
    by_cases holds : a.holds t.place = true <;> simp [renumber, ways, place, holds]
  | seq a b first second =>
    simp only [renumber, ways, first, List.flatMap_map, second, List.map_flatMap]
  | alt a b first second => simp only [renumber, ways, first, second, List.map_append]
  | enclosed a ih => exact ih t
  | group n a ih =>
    simp only [renumber, ways, Thread.openGroup_renumber, ih, List.map_map]
    exact List.map_congr_left fun u _ => Thread.closeGroup_renumber n
  | rep a low high greedy ih => exact Thread.iterations_map ih _ low t
  | look dir negative a ih =>
    cases dir <;> cases negative <;> try rfl
    simp only [renumber, ways, ih, List.map_map]
    rfl
  | atomic a ih | backref n => rfl

/-- No way changes what is captured under a number that no group has. -/
theorem ways_capture? {n : Nat} (foreign : n ∉ e.groups) {t u : Thread} (member : u ∈ e.ways t) :
    u.capture? n = t.capture? n := by
  induction e generalizing t u with
  | empty => simp_all [ways]
  | char s =>
    obtain ⟨c, rest, -, -, rfl⟩ := step?_eq_some.1 (Option.mem_toList.1 member)
    rfl
  | anchor a => simp_all [ways]
  | seq a b first second =>
    simp only [groups, List.mem_append, not_or] at foreign
    obtain ⟨v, front, back⟩ := List.mem_flatMap.1 member
    rw [second foreign.2 back, first foreign.1 front]
  | alt a b first second =>
    simp only [groups, List.mem_append, not_or] at foreign
    cases List.mem_append.1 member with
    | inl left => exact first foreign.1 left
    | inr right => exact second foreign.2 right
  | enclosed a ih => exact ih foreign member
  | group m a ih =>
    simp only [groups, List.mem_cons, not_or] at foreign
    obtain ⟨v, inside, rfl⟩ := List.mem_map.1 member
    rw [Thread.capture?_closeGroup foreign.1, ih foreign.2 inside,
      Thread.capture?_openGroup foreign.1]
  | rep a low high greedy ih =>
    exact Thread.iterations_preserve (P := fun u => u.capture? n = t.capture? n)
      (fun v w same way => (ih foreign way).trans same) rfl member
  | look dir negative a ih =>
    cases dir <;> cases negative <;> simp only [ways, List.mem_map, List.not_mem_nil] at member
    obtain ⟨v, inside, rfl⟩ := member
    exact ih (u := v) foreign inside
  | atomic a ih | backref m => simp [ways] at member

/-! ## Plans -/

theorem isSome_settle? (e : Expr) : (Plan.settle? e).isSome = e.isSettleable := by
  unfold Plan.settle?
  cases e.isSettleable <;> rfl

/-- Two plans make one where both are there. -/
theorem isSome_both {p q : Option Plan} (f : Plan → Plan → Plan) :
    (do some (f (← p) (← q))).isSome = (p.isSome && q.isSome) := by
  cases p <;> cases q <;> rfl

/-- Whether an expression can be planned does not depend on the numbers of its groups. -/
theorem isSome_ofExpr?_renumber (tame : e.tame = true) (searched : Bool) (role : Plan.Role) :
    (Plan.ofExpr? [] searched role (e.renumber d)).isSome =
      (Plan.ofExpr? [] searched role e).isSome := by
  have settles : ∀ searched role (e : Expr), Plan.settles [] searched role (e.renumber d) =
      Plan.settles [] searched role e := by
    intro searched role e
    simp only [Plan.settles, needsSearch_renumber, fixedLength_renumber]
  have settled : ∀ e : Expr, (Plan.settle? (e.renumber d)).isSome = (Plan.settle? e).isSome := by
    intro e
    rw [isSome_settle?, isSome_settle?, isSettleable_renumber]
  induction e generalizing searched role with
  | empty | char s | anchor a => rfl
  | seq a b first second =>
    have whole := settled (seq a b)
    have same := settles searched role (seq a b)
    simp only [Expr.tame, Bool.and_eq_true] at tame
    simp only [renumber] at same whole ⊢
    simp only [Plan.ofExpr?, same, needsSearch_renumber, fixedLength_renumber]
    split
    · exact whole
    · split
      · rw [isSome_both, isSome_both, settled, second tame.2]
      · rw [isSome_both, isSome_both, first tame.1, second tame.2]
  | alt a b first second =>
    have whole := settled (alt a b)
    have same := settles searched role (alt a b)
    simp only [Expr.tame, Bool.and_eq_true] at tame
    simp only [renumber] at same whole ⊢
    simp only [Plan.ofExpr?, same]
    split
    · exact whole
    · rw [isSome_both, isSome_both, first tame.1, second tame.2]
  | enclosed a ih =>
    have whole := settled (enclosed a)
    have same := settles searched role (enclosed a)
    simp only [renumber] at same whole ⊢
    simp only [Plan.ofExpr?, same]
    split
    · exact whole
    · exact ih tame _ _
  | group n a ih =>
    have whole := settled (group n a)
    have same := settles searched role (group n a)
    simp only [Expr.tame, Bool.and_eq_true] at tame
    simp only [renumber] at same whole ⊢
    simp only [Plan.ofExpr?, same]
    split
    · exact whole
    · rw [Option.isSome_map, Option.isSome_map, ih tame.1]
  | rep a low high greedy ih =>
    have whole := settled (rep a low high greedy)
    have same := settles searched role (rep a low high greedy)
    simp only [Expr.tame, Bool.and_eq_true] at tame
    simp only [renumber] at same whole ⊢
    simp only [Plan.ofExpr?, same, needsSearch_renumber, minLength_renumber]
    split
    · exact whole
    · rw [Option.isSome_map, Option.isSome_map, ih tame.1.1]
  | look dir negative a ih =>
    cases dir <;> cases negative <;> simp only [Expr.tame, Bool.and_eq_true, Bool.false_eq_true] at tame
    simp only [renumber, Plan.ofExpr?, Option.isSome_map, ih tame.1.1]
  | atomic a ih | backref n => cases tame

/-- What has a program keeps one under other numbers. -/
theorem isSome_ofNotated?_renumber (tame : e.tame = true) (groups groups' : Nat) :
    (Program.ofNotated? ⟨e.renumber d, groups, []⟩).isSome =
      (Program.ofNotated? ⟨e, groups', []⟩).isSome := by
  simp only [Program.ofNotated?, needsSearch_renumber, isSettleable_renumber]
  split
  · rw [Option.isSome_map, Option.isSome_map, isSome_ofExpr?_renumber tame]
  · split <;> rfl

end Renumber

end Expr

end RoutePattern
