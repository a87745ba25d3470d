import RoutePattern.Proofs.Expr.Ways

/-! # Threads at different places

Two lists of threads are `Alike` when the first threads at each place are the same in both, in the
same order. All that `distinct` forgets is what `Alike` forgets, and the lists that an expression
makes of lists that are alike are alike again (`Alike.flatMap`).
-/

namespace RoutePattern

namespace Marks

@[simp] theorem has_none (j : Nat) : none.has j = false := by simp [has, none]

@[simp] theorem has_insert (m : Marks) (i j : Nat) :
    (m.insert i).has j = (m.has j || decide (i = j)) := by
  simp only [has, insert, Nat.testBit_or, Nat.shiftLeft_eq, Nat.one_mul, Nat.testBit_two_pow]

end Marks

namespace Thread

/-- A thread of the list stands at that index. -/
def At (ts : List Thread) (i : Nat) : Prop := ∃ t ∈ ts, t.index = i

theorem at_append {ts ts' : List Thread} {i : Nat} : At (ts ++ ts') i ↔ At ts i ∨ At ts' i := by
  simp [At, or_and_right, exists_or]

theorem at_flatMap {f : Thread → List Thread} {ts : List Thread} {i : Nat} :
    At (ts.flatMap f) i ↔ ∃ t ∈ ts, At (f t) i := by
  simp only [At, List.mem_flatMap]
  constructor
  · rintro ⟨u, ⟨t, member, inside⟩, same⟩
    exact ⟨t, member, u, inside, same⟩
  · rintro ⟨t, member, u, inside, same⟩
    exact ⟨u, ⟨t, member, inside⟩, same⟩

/-! ## First threads at each place -/

theorem mem_of_mem_distinctFrom {seen : Marks} {ts : List Thread} {u : Thread}
    (member : u ∈ distinctFrom seen ts) : u ∈ ts ∧ seen.has u.index = false := by
  induction ts generalizing seen with
  | nil => cases member
  | cons t ts ih =>
    simp only [distinctFrom] at member
    split at member
    · exact ⟨List.mem_cons_of_mem _ (ih member).1, (ih member).2⟩
    · rename_i unseen
      rcases List.mem_cons.1 member with rfl | later
      · exact ⟨List.mem_cons_self, by simpa using unseen⟩
      · have kept := (ih later).2
        simp only [Marks.has_insert, Bool.or_eq_false_iff] at kept
        exact ⟨List.mem_cons_of_mem _ (ih later).1, kept.1⟩

theorem distinctFrom_filter (seen seen' : Marks) (ts : List Thread)
    (more : ∀ i, seen.has i = true → seen'.has i = true) :
    distinctFrom seen' ts = (distinctFrom seen ts).filter fun t => !seen'.has t.index := by
  induction ts generalizing seen seen' with
  | nil => rfl
  | cons t ts ih =>
    by_cases before : seen.has t.index = true
    · simp only [distinctFrom, before, more _ before, if_true]
      exact ih seen seen' more
    · -- The larger set may hold the place that the smaller one does not.
      by_cases here : seen'.has t.index = true
      · simp only [distinctFrom, before, here, if_true]
        rw [ih (seen.insert t.index) seen' (by grind [Marks.has_insert])]
        simp [here]
      · simp only [distinctFrom, before, here]
        rw [ih (seen.insert t.index) (seen'.insert t.index) (by grind [Marks.has_insert])]
        simp only [here, Bool.not_false, Bool.false_eq_true, if_false, List.filter_cons_of_pos]
        congr 1
        -- What is left stands elsewhere, so the new mark filters nothing out.
        refine List.filter_congr fun u member => ?_
        have other := (mem_of_mem_distinctFrom member).2
        grind [Marks.has_insert]

theorem distinctFrom_append (seen : Marks) (ts ts' : List Thread) :
    distinctFrom seen (ts ++ ts') =
      distinctFrom seen ts ++ (distinctFrom seen ts').filter fun u => !ts.any (·.index == u.index) := by
  induction ts generalizing seen with
  | nil => simp [distinctFrom]
  | cons t ts ih =>
    by_cases before : seen.has t.index = true
    · simp only [List.cons_append, distinctFrom, before, if_true, ih]
      congr 1
      refine List.filter_congr fun u member => ?_
      have other := (mem_of_mem_distinctFrom member).2
      grind
    · simp only [List.cons_append, distinctFrom, before, ih]
      rw [distinctFrom_filter seen (seen.insert t.index) ts' (by grind [Marks.has_insert]),
        List.filter_filter]
      simp only [Bool.false_eq_true, if_false, List.cons_append]
      congr 2
      refine List.filter_congr fun u member => ?_
      have other := (mem_of_mem_distinctFrom member).2
      grind [Marks.has_insert]

theorem distinctFrom_distinctFrom (seen : Marks) (ts : List Thread) :
    distinctFrom seen (distinctFrom seen ts) = distinctFrom seen ts := by
  induction ts generalizing seen with
  | nil => rfl
  | cons t ts ih =>
    by_cases before : seen.has t.index = true
    · simp only [distinctFrom, before, if_true, ih]
    · simp only [distinctFrom, before, ih, if_false, Bool.false_eq_true]

theorem at_distinct {ts : List Thread} {i : Nat} : At (distinct ts) i ↔ At ts i := by
  suffices general : ∀ seen : Marks, At (distinctFrom seen ts) i ↔ At ts i ∧ seen.has i = false by
    simpa [distinct] using general .none
  intro seen
  induction ts generalizing seen with
  | nil => simp [distinctFrom, At]
  | cons t ts ih =>
    have split : At (t :: ts) i ↔ t.index = i ∨ At ts i := by simp [At]
    by_cases before : seen.has t.index = true
    · simp only [distinctFrom, before, if_true, ih, split]
      grind
    · have split' : At (t :: distinctFrom (seen.insert t.index) ts) i ↔
          t.index = i ∨ At (distinctFrom (seen.insert t.index) ts) i := by simp [At]
      simp only [distinctFrom, before, if_false, Bool.false_eq_true, split, split', ih]
      grind [Marks.has_insert]

/-- The first threads at each place agree, in their order. -/
def Alike (ts ts' : List Thread) : Prop := distinct ts = distinct ts'

namespace Alike

variable {ts ts' us us' vs : List Thread}

theorem refl (ts : List Thread) : Alike ts ts := rfl

theorem symm (alike : Alike ts us) : Alike us ts := Eq.symm alike

theorem trans (alike : Alike ts us) (alike' : Alike us vs) : Alike ts vs := Eq.trans alike alike'

theorem at_iff (alike : Alike ts us) {i : Nat} : At ts i ↔ At us i := by
  have left : At (distinct ts) i ↔ At ts i := at_distinct
  have right : At (distinct us) i ↔ At us i := at_distinct
  rw [← left, ← right, alike]

theorem append (left : Alike ts ts') (right : Alike us us') : Alike (ts ++ us) (ts' ++ us') := by
  have places := fun i => left.at_iff (i := i)
  simp only [Alike, distinct, distinctFrom_append] at left right ⊢
  rw [left, right]
  congr 1
  refine List.filter_congr fun u _ => ?_
  have same : ts.any (·.index == u.index) = ts'.any (·.index == u.index) := by
    rw [Bool.eq_iff_iff]
    simpa [At] using places u.index
  rw [same]

/-- Threads at places that are taken already change nothing. -/
theorem append_taken (taken : ∀ i, At us i → At ts i) : Alike (ts ++ us) ts := by
  simp only [Alike, distinct, distinctFrom_append, List.append_right_eq_self, List.filter_eq_nil_iff]
  intro u member
  obtain ⟨t, found, same⟩ := taken u.index ⟨u, (mem_of_mem_distinctFrom member).1, rfl⟩
  simp only [Bool.not_eq_true, Bool.not_eq_false', List.any_eq_true, beq_iff_eq]
  exact ⟨t, found, same⟩

theorem distinct_left (ts : List Thread) : Alike (distinct ts) ts := distinctFrom_distinctFrom .none ts

theorem head? (alike : Alike ts us) : ts.head? = us.head? := by
  have kept : ∀ ts : List Thread, (distinct ts).head? = ts.head? := by
    intro ts
    cases ts <;> simp [distinct, distinctFrom]
  rw [← kept ts, ← kept us, alike]

theorem flatMap_congr {f g : Thread → List Thread} (alike : ∀ t ∈ ts, Alike (f t) (g t)) :
    Alike (ts.flatMap f) (ts.flatMap g) := by
  induction ts with
  | nil => exact refl _
  | cons t ts ih =>
    exact (alike t List.mem_cons_self).append
      (ih fun u member => alike u (List.mem_cons_of_mem _ member))

end Alike

/-- From threads at one place of the text, the results stand at the same places. -/
def Steady (subject : Text) (f : Thread → List Thread) : Prop :=
  ∀ ⦃t t' : Thread⦄, t.place.On subject → t'.place.On subject → t.index = t'.index →
    ∀ i, At (f t) i → At (f t') i

theorem Placed.steady {f : Thread → List Thread} (placed : Placed f) (subject : Text) :
    Steady subject f := by
  intro t t' on on' same i found
  have places := placed (on.eq_of_index on' same)
  obtain ⟨u, member, index⟩ := found
  have listed : u.place ∈ (f t').map (·.place) := by
    rw [← places]
    exact List.mem_map_of_mem member
  obtain ⟨u', member', place⟩ := List.mem_map.1 listed
  exact ⟨u', member', by simpa [Thread.index, place] using index⟩

/-- What is made of the first threads at each place is alike. -/
theorem Alike.flatMap {subject : Text} {f : Thread → List Thread} (steady : Steady subject f)
    {ts us : List Thread} (on : ∀ t ∈ ts, t.place.On subject) (on' : ∀ t ∈ us, t.place.On subject)
    (alike : Alike ts us) : Alike (ts.flatMap f) (us.flatMap f) := by
  suffices general : ∀ (ts : List Thread), (∀ t ∈ ts, t.place.On subject) →
      Alike (ts.flatMap f) ((distinct ts).flatMap f) by
    have left := general ts on
    rw [alike] at left
    exact left.trans (general us on').symm
  intro ts on
  -- Everything that comes of the places seen so far is in `before`.
  suffices general : ∀ (before : List Thread) (seen : Marks),
      (∀ t : Thread, t.place.On subject → seen.has t.index = true → ∀ i, At (f t) i → At before i) →
      Alike (before ++ ts.flatMap f) (before ++ (distinctFrom seen ts).flatMap f) from
    general [] .none (by simp)
  clear alike on' us
  induction ts with
  | nil => exact fun before seen _ => refl _
  | cons t ts ih =>
    intro before seen covered
    have onHead := on t List.mem_cons_self
    have onTail : ∀ u ∈ ts, u.place.On subject := fun u member => on u (List.mem_cons_of_mem _ member)
    by_cases known : seen.has t.index = true
    · -- A place seen before adds nothing.
      simp only [distinctFrom, known, if_true, List.flatMap_cons, ← List.append_assoc]
      exact ((append_taken (covered t onHead known)).append (refl _)).trans (ih onTail before seen covered)
    · simp only [distinctFrom, known, List.flatMap_cons, ← List.append_assoc, Bool.false_eq_true,
        if_false]
      refine ih onTail (before ++ f t) (seen.insert t.index) fun u onOther marked i found => ?_
      rw [at_append]
      simp only [Marks.has_insert, Bool.or_eq_true, decide_eq_true_eq] at marked
      rcases marked with marked | same
      · exact .inl (covered u onOther marked i found)
      · exact .inr (steady onOther onHead same.symm i found)

end Thread

end RoutePattern
