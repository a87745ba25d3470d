import RoutePattern.Proofs.Expr.Ends

/-! # Backtracking takes the ways in their order

A run of the plan of a tame expression goes through the ways of the expression in their order
(`run_searches`): what it finds is what the rest makes of the first way that is not refused, and it
fails only if all of them are. A run that reaches a limit promises nothing.

That a place is refused is a matter of the place alone, as no reference looks at captures. This is
why a settled part may answer with its first way only: all its ways have one length.
-/

namespace RoutePattern.Plan

open Thread (At atMost iterations prefer)

/-- `v` is what a search through `us` answers: `refused` holds of the places at which it was not
accepted. -/
def Searches (refused : Place → Prop) (rest : Rest) (us : List Thread) : Verdict → Prop
  | .exhausted => True
  | .failed _ => ∀ u ∈ us, refused u.place
  | .found w _ => ∃ before u after, us = before ++ u :: after ∧ (∀ v ∈ before, refused v.place) ∧
      ∃ left returns, rest u left = .found w returns

/-- Where the rest fails on one of the threads, the place is refused. -/
def Refuses (refused : Place → Prop) (rest : Rest) (us : List Thread) : Prop :=
  ∀ u ∈ us, ∀ left returns, rest u left = .failed returns → refused u.place

section Searches

variable {refused : Place → Prop} {rest : Rest} {us us' : List Thread}

theorem Refuses.of_subset (refuses : Refuses refused rest us) (subset : ∀ u ∈ us', u ∈ us) :
    Refuses refused rest us' :=
  fun u member => refuses u (subset u member)

theorem searches_single {u : Thread} (refuses : Refuses refused rest [u]) (left : Budget) :
    Searches refused rest [u] (rest u left) := by
  cases answer : rest u left with
  | exhausted => trivial
  | failed left' =>
    intro v member
    obtain rfl : v = u := by simpa using member
    exact refuses v member left left' answer
  | found w left' => exact ⟨[], u, [], rfl, by simp, left, left', answer⟩

theorem Searches.orElse {v : Verdict} {other : Budget → Verdict} (first : Searches refused rest us v)
    (second : ∀ left, Searches refused rest us' (other left)) (room : Nat) :
    Searches refused rest (us ++ us') (v.orElse room other) := by
  cases v with
  | exhausted => trivial
  | found w returns =>
    obtain ⟨before, u, after, rfl, refusedBefore, accepted⟩ := first
    exact ⟨before, u, after ++ us', by simp, refusedBefore, accepted⟩
  | failed returns =>
    cases returns with
    | zero => trivial
    | succ returns =>
      -- The second choice is made with one return less.
      have next := second ⟨room, returns⟩
      simp only [Verdict.orElse]
      cases answer : other ⟨room, returns⟩ with
      | exhausted => trivial
      | failed returns' =>
        rw [answer] at next
        intro u member
        rcases List.mem_append.1 member with front | back
        · exact first u front
        · exact next u back
      | found w returns' =>
        rw [answer] at next
        obtain ⟨before, u, after, rfl, refusedBefore, accepted⟩ := next
        refine ⟨us ++ before, u, after, by simp, fun v member => ?_, accepted⟩
        rcases List.mem_append.1 member with front | back
        · exact first v front
        · exact refusedBefore v back

theorem Searches.waiting {first : Budget → Verdict}
    (searched : ∀ left, Searches refused rest us (first left)) (left : Budget) :
    Searches refused rest us (left.waiting first) := by
  unfold Budget.waiting
  split
  · trivial
  · exact searched _

theorem Searches.choose {first other : Budget → Verdict}
    (searched : ∀ left, Searches refused rest us (first left))
    (second : ∀ left, Searches refused rest us' (other left)) (left : Budget) :
    Searches refused rest (us ++ us') (choose first other left) :=
  (Searches.waiting searched left).orElse second left.room

theorem Searches.either {greedy : Bool} {further stop : Budget → Verdict} (left : Budget)
    (first : ∀ left, Searches refused rest us (further left))
    (second : ∀ left, Searches refused rest us' (stop left)) :
    Searches refused rest (prefer greedy us us') (either greedy further stop left) := by
  cases greedy
  · exact Searches.choose second first left
  · exact Searches.choose first second left

/-- A change of threads that keeps their places. -/
theorem Searches.map {f : Thread → Thread} (keeps : ∀ u, (f u).place = u.place) {v : Verdict}
    (searched : Searches refused (fun u left => rest (f u) left) us v) :
    Searches refused rest (us.map f) v := by
  cases v with
  | exhausted => trivial
  | failed left =>
    intro u member
    obtain ⟨u, listed, rfl⟩ := List.mem_map.1 member
    rw [keeps]
    exact searched u listed
  | found w left =>
    obtain ⟨before, u, after, rfl, refusedBefore, accepted⟩ := searched
    refine ⟨before.map f, f u, after.map f, by simp, fun v member => ?_, accepted⟩
    obtain ⟨v, listed, rfl⟩ := List.mem_map.1 member
    rw [keeps]
    exact refusedBefore v listed

/-- Every way of `f` from the place is refused. -/
def RefusedBehind (refused : Place → Prop) (f : Thread → List Thread) (p : Place) : Prop :=
  ∀ u : Thread, u.place = p → ∀ w ∈ f u, refused w.place

variable {f : Thread → List Thread} {g : Rest}

theorem refuses_behind (placed : Thread.Placed f)
    (inner : ∀ u ∈ us, ∀ left, Searches refused rest (f u) (g u left)) :
    Refuses (RefusedBehind refused f) g us := by
  intro u listed left left' failed u' same w member
  have searched := inner u listed left
  rw [failed] at searched
  -- A thread at the same place has ways to the same places.
  have there : w.place ∈ (f u).map (·.place) := by
    rw [← placed same]
    exact List.mem_map_of_mem member
  obtain ⟨x, found, place⟩ := List.mem_map.1 there
  rw [← place]
  exact searched x found

theorem Searches.flatMap (inner : ∀ u ∈ us, ∀ left, Searches refused rest (f u) (g u left))
    {v : Verdict} (outer : Searches (RefusedBehind refused f) g us v) :
    Searches refused rest (us.flatMap f) v := by
  cases v with
  | exhausted => trivial
  | failed left =>
    intro w member
    obtain ⟨u, listed, inside⟩ := List.mem_flatMap.1 member
    exact outer u listed u rfl w inside
  | found w left =>
    obtain ⟨before, u, after, rfl, refusedBefore, left, left', accepted⟩ := outer
    have searched := inner u (by simp) left
    rw [accepted] at searched
    obtain ⟨before', x, after', ways, refusedBefore', accepted'⟩ := searched
    refine ⟨before.flatMap f ++ before', x, after' ++ after.flatMap f, by simp [ways],
      fun y member => ?_, accepted'⟩
    rcases List.mem_append.1 member with early | late
    · obtain ⟨v, listed, inside⟩ := List.mem_flatMap.1 early
      exact refusedBefore v listed v rfl y inside
    · exact refusedBefore' y late

end Searches

/-! ## Settled parts -/

section Settled

variable {subject : Text} {refused : Place → Prop} {rest : Rest} {e : Expr}

/-- Where all ways lead to one place, it is enough to answer with the first of them. -/
theorem searches_head {us : List Thread} (together : ∀ u ∈ us, ∀ u' ∈ us, u.place = u'.place)
    (refuses : Refuses refused rest us) (left : Budget) :
    Searches refused rest us
      (match us.head? with
        | some u => rest u left
        | none => .failed left.returns) := by
  cases us with
  | nil => intro u member; cases member
  | cons u us =>
    have single : ∀ v ∈ [u], v ∈ u :: us := by simp
    have head := searches_single (refuses.of_subset single) left
    simp only [List.head?_cons]
    cases answer : rest u left with
    | exhausted => trivial
    | failed left' =>
      rw [answer] at head
      intro v member
      rw [together v member u List.mem_cons_self]
      exact head u List.mem_cons_self
    | found w left' => exact ⟨[], u, us, rfl, by simp, left, left', answer⟩

theorem settle_searches (groupless : e.groups = []) {t : Thread} {us : List Thread}
    (first : (e.ends [t]).head? = us.head?)
    (together : ∀ u ∈ us, ∀ u' ∈ us, u.place = u'.place) (refuses : Refuses refused rest us)
    (left : Budget) : Searches refused rest us ((settle e).run t rest left) := by
  have same : t.clear e.groups = t := by simp [groupless, Thread.clear, Thread.without]
  simp only [run, same, first]
  exact searches_head together refuses left

theorem settle_fixed_searches (tame : e.tame = true) (direct : e.needsSearch [] = false)
    (fixed : e.fixedLength = true) {t : Thread} (on : t.place.On subject)
    (refuses : Refuses refused rest (e.ways t)) (left : Budget) :
    Searches refused rest (e.ways t) ((settle e).run t rest left) := by
  refine settle_searches (e.groups_eq_nil tame fixed) (e.head?_ends tame direct on) ?_ refuses left
  intro u member u' member'
  refine (e.ways_on on member).eq_of_index (e.ways_on on member') ?_
  have left := e.ways_fixed_index fixed member
  have right := e.ways_fixed_index fixed member'
  simp only [Thread.index] at left right
  omega

theorem settle?_eq_some {p : Plan} : settle? e = some p ↔ e.isSettleable = true ∧ settle e = p := by
  simp [settle?]

end Settled

/-! ## Repetition -/

section Iterate

variable {subject : Text} {body : Thread → Rest → Budget → Verdict} {ways : Thread → List Thread}
  {greedy : Bool}

/-- How many more iterations may be listed when `count` are behind: what the range of counts leaves
or, without an upper end, any number that the text ahead does not exceed. -/
def Spares (low : Nat) (high : Option Nat) (count : Nat) (t : Thread) (spare : Nat) : Prop :=
  high.elim (t.place.after.length ≤ spare) fun high => spare = high - max low count

theorem Spares.next {low count spare : Nat} {high : Option Nat} {t u : Thread}
    (spares : Spares low high count t spare) (behind : count < low)
    (shorter : u.place.after.length < t.place.after.length) :
    Spares low high (count + 1) u spare := by
  cases high with
  | none =>
    have enough : t.place.after.length ≤ spare := spares
    exact Nat.le_trans (Nat.le_of_lt shorter) enough
  | some high =>
    have exact : spare = high - max low count := spares
    show spare = high - max low (count + 1)
    omega

theorem Spares.unroll (greedy : Bool) (advances : Thread.Advances subject ways)
    {low count spare : Nat}
    {high : Option Nat} {t : Thread} (on : t.place.On subject)
    (spares : Spares low high count t spare) (within : high.all (max low count ≤ ·) = true)
    (reached : low ≤ count) (partly : high ≠ some count) :
    ∃ more, atMost ways greedy spare t =
        prefer greedy ((ways t).flatMap (atMost ways greedy more)) [t] ∧
      high.all (max low (count + 1) ≤ ·) = true ∧
      ∀ u ∈ ways t, Spares low high (count + 1) u more := by
  cases high with
  | none =>
    have enough : t.place.after.length ≤ spare := spares
    refine ⟨spare, ?_, rfl, fun u member => ?_⟩
    · exact Thread.atMost_stable advances on enough (Nat.le_succ_of_le enough)
    · exact Nat.le_trans (Nat.le_of_lt (advances.after_lt on member)) enough
  | some high =>
    have exact : spare = high - max low count := spares
    have least : max low count ≤ high := by simpa using within
    have other : high ≠ count := by simpa using partly
    refine ⟨high - max low (count + 1), ?_, ?_, fun u member => rfl⟩
    · obtain rfl : spare = high - max low (count + 1) + 1 := by omega
      rfl
    · simp only [Option.all_some, decide_eq_true_eq]
      omega

/-- The search through the iterations that are left takes them in the order in which
`Thread.iterations` lists them. -/
theorem iterate_searches (advances : Thread.Advances subject ways) (placed : Thread.Placed ways)
    (inner : ∀ {refused : Place → Prop} {rest : Rest} {t : Thread}, t.place.On subject →
      Refuses refused rest (ways t) → ∀ left, Searches refused rest (ways t) (body t rest left))
    {low : Nat} {high : Option Nat} {refused : Place → Prop} {rest : Rest} (bound : Text)
    {count last spare : Nat} {t : Thread} (on : t.place.On subject)
    (enough : t.place.after.length < bound.length) (within : high.all (max low count ≤ ·) = true)
    (spares : Spares low high count t spare)
    (refuses : Refuses refused rest (iterations ways greedy spare (low - count) t)) (left : Budget) :
    Searches refused rest (iterations ways greedy spare (low - count) t)
      (iterate body low high greedy false rest bound count last t left) := by
  induction bound generalizing count last spare t left with
  | nil => cases enough
  | cons _ bound ih =>
    rw [List.length_cons] at enough
    simp only [iterate, Bool.false_and, Bool.false_eq_true, if_false]
    by_cases full : high = some count
    · -- The range is exhausted: nothing but stopping is listed.
      subst full
      have least : max low count ≤ count := by simpa using within
      obtain rfl : spare = count - max low count := spares
      have noneLeft : low - count = 0 := by omega
      have noSpare : count - max low count = 0 := by omega
      rw [noneLeft, noSpare] at refuses ⊢
      simpa [iterations, atMost] using searches_single (by simpa [iterations, atMost] using refuses)
        left
    · simp only [beq_iff_eq, full, if_false]
      -- One iteration is made, and the search goes on behind each of its ways.
      have further : ∀ {more : Nat}, (∀ u ∈ ways t, Spares low high (count + 1) u more) →
          high.all (max low (count + 1) ≤ ·) = true →
          Refuses refused rest
            ((ways t).flatMap (iterations ways greedy more (low - (count + 1)))) →
          ∀ last left, Searches refused rest
            ((ways t).flatMap (iterations ways greedy more (low - (count + 1))))
            (body t (iterate body low high greedy false rest bound (count + 1) last) left) := by
        intro more spares within refuses last left
        have rests : ∀ u ∈ ways t, ∀ left,
            Searches refused rest (iterations ways greedy more (low - (count + 1)) u)
              (iterate body low high greedy false rest bound (count + 1) last u left) := by
          intro u member left
          have shorter := advances.after_lt on member
          refine ih (advances.on on member) (by omega) within (spares u member) ?_ left
          exact refuses.of_subset fun v inside => List.mem_flatMap.2 ⟨u, member, inside⟩
        refine Searches.flatMap rests (inner on ?_ left)
        exact refuses_behind (placed.iterations greedy more _) rests
      by_cases reached : low ≤ count
      · -- The search may stop here, before or after it goes on.
        obtain ⟨more, unrolled, within', spares'⟩ :=
          spares.unroll greedy advances on within reached full
        have noneLeft : low - count = 0 := by omega
        have noneLeft' : low - (count + 1) = 0 := by omega
        simp only [noneLeft, noneLeft', iterations, unrolled, reached, if_true] at refuses further ⊢
        refine Searches.either left (fun left => ?_) fun left => ?_
        · exact further spares' within'
            (refuses.of_subset fun u inside => Thread.mem_prefer.2 (.inl inside)) _ left
        · exact searches_single
            (refuses.of_subset fun u inside => Thread.mem_prefer.2 (.inr inside)) left
      · -- One more of the iterations that must be made.
        simp only [reached, if_false]
        have split : low - count = (low - (count + 1)) + 1 := by omega
        have within' : high.all (max low (count + 1) ≤ ·) = true := by
          have same : max low (count + 1) = max low count := by omega
          rwa [same]
        rw [split] at refuses ⊢
        exact further (fun u member => spares.next (by omega) (advances.after_lt on member)) within'
          refuses last left

end Iterate

/-! ## Plans -/

section Run

variable {subject : Text} {refused : Place → Prop} {rest : Rest}

/-- The plan of what needs no search settles it as a whole. -/
theorem ofExpr?_direct {e : Expr} {p : Plan} (direct : e.needsSearch [] = false)
    (planned : ofExpr? [] false .whole e = some p) : p = settle e := by
  cases e with
  | empty | char s => simpa [ofExpr?] using planned.symm
  | anchor a => simpa [ofExpr?] using planned.symm
  | look d negative a | atomic a | backref n => cases direct
  | _ =>
    simp only [ofExpr?, settles, direct, Bool.not_false, Bool.true_or, Bool.and_true, if_true]
      at planned
    exact (settle?_eq_some.1 planned).2.symm

theorem settles_searched {role : Role} {e : Expr} (settled : settles [] true role e = true) :
    e.needsSearch [] = false ∧ e.fixedLength = true := by
  simp only [settles, Bool.not_true, Bool.false_or, Bool.and_eq_true, Bool.not_eq_true'] at settled
  exact ⟨settled.1, settled.2.2⟩

theorem seq_searches {a b : Expr} {first second : Plan} {t : Thread}
    (front : ∀ {refused rest}, Refuses refused rest (a.ways t) → ∀ left,
      Searches refused rest (a.ways t) (first.run t rest left))
    (back : ∀ {u}, u ∈ a.ways t → Refuses refused rest (b.ways u) → ∀ left,
      Searches refused rest (b.ways u) (second.run u rest left))
    (refuses : Refuses refused rest ((Expr.seq a b).ways t)) (left : Budget) :
    Searches refused rest ((Expr.seq a b).ways t) ((seq first second).run t rest left) := by
  have rests : ∀ u ∈ a.ways t, ∀ left, Searches refused rest (b.ways u) (second.run u rest left) :=
    fun u member => back member
      (refuses.of_subset fun v inside => List.mem_flatMap.2 ⟨u, member, inside⟩)
  exact Searches.flatMap rests (front (refuses_behind b.ways_placed rests) left)

/-- A part that may be settled needs no search and has ways of one length only. -/
theorem settles_searches {e : Expr} {role : Role} {p : Plan} (tame : e.tame = true)
    (settled : settles [] true role e = true) (planned : settle? e = some p) {t : Thread}
    (on : t.place.On subject) (refuses : Refuses refused rest (e.ways t)) (left : Budget) :
    Searches refused rest (e.ways t) (p.run t rest left) := by
  obtain ⟨direct, fixed⟩ := settles_searched settled
  obtain ⟨-, rfl⟩ := settle?_eq_some.1 planned
  exact settle_fixed_searches tame direct fixed on refuses left

theorem ahead_searches {a : Expr} (tame : a.tame = true) (groupless : a.groups = [])
    (direct : a.needsSearch [] = false) {t : Thread} (on : t.place.On subject)
    (refuses : Refuses refused rest ((Expr.look .ahead false a).ways t)) (left : Budget) :
    Searches refused rest ((Expr.look .ahead false a).ways t)
      ((ahead false (settle a)).run t rest left) := by
  have same : t.clear a.groups = t := by simp [groupless, Thread.clear, Thread.without]
  -- All ways look ahead from the same place, so the first one answers for all.
  have together : ∀ u ∈ (Expr.look .ahead false a).ways t,
      ∀ u' ∈ (Expr.look .ahead false a).ways t, u.place = u'.place := by
    intro u member u' member'
    obtain ⟨v, -, rfl⟩ := List.mem_map.1 member
    obtain ⟨v', -, rfl⟩ := List.mem_map.1 member'
    rfl
  have answer := searches_head together refuses left
  simp only [run, same, Expr.head?_ends tame direct on]
  simp only [Expr.ways, List.head?_map] at answer ⊢
  cases first : (a.ways t).head? with
  | none => simpa [first] using answer
  | some u => simpa [first] using answer

/-- A run of the plan of a tame expression takes the ways in their order. -/
theorem run_searches {e : Expr} {role : Role} {p : Plan} (tame : e.tame = true)
    (planned : ofExpr? [] true role e = some p) {t : Thread} (on : t.place.On subject)
    (refuses : Refuses refused rest (e.ways t)) (left : Budget) :
    Searches refused rest (e.ways t) (p.run t rest left) := by
  induction e generalizing role p t refused rest left with
  | empty | char s =>
    obtain rfl : settle _ = p := by simpa [ofExpr?] using planned
    exact settle_fixed_searches tame rfl rfl on refuses left
  | anchor a =>
    obtain rfl : settle _ = p := by simpa [ofExpr?] using planned
    refine settle_searches rfl ?_ (fun u member u' member' => ?_) refuses left
    · by_cases holds : a.holds t.place = true <;> simp [Expr.ends, Expr.ways, holds]
    · simp_all [Expr.ways]
  | seq a b first second =>
    rw [ofExpr?] at planned
    have parts := tame
    simp only [Expr.tame, Bool.and_eq_true] at parts
    split at planned
    · exact settles_searches tame ‹_› planned on refuses left
    · split at planned
      · -- Only the front is settled.
        rename_i fixed
        simp only [Bool.and_eq_true, Bool.not_eq_true'] at fixed
        simp only [Option.bind_eq_bind, Option.bind_eq_some_iff, Option.some.injEq] at planned
        obtain ⟨front, frontPlanned, back, backPlanned, rfl⟩ := planned
        obtain ⟨-, rfl⟩ := settle?_eq_some.1 frontPlanned
        refine seq_searches (settle_fixed_searches parts.1 fixed.1.2 fixed.2 on) ?_ refuses left
        exact fun member => second parts.2 backPlanned (a.ways_on on member)
      · simp only [Option.bind_eq_bind, Option.bind_eq_some_iff, Option.some.injEq] at planned
        obtain ⟨front, frontPlanned, back, backPlanned, rfl⟩ := planned
        refine seq_searches (first parts.1 frontPlanned on) ?_ refuses left
        exact fun member => second parts.2 backPlanned (a.ways_on on member)
  | alt a b first second =>
    rw [ofExpr?] at planned
    have parts := tame
    simp only [Expr.tame, Bool.and_eq_true] at parts
    split at planned
    · exact settles_searches tame ‹_› planned on refuses left
    · simp only [Bool.true_or, Option.bind_eq_bind, Option.bind_eq_some_iff,
        Option.some.injEq] at planned
      obtain ⟨front, frontPlanned, back, backPlanned, rfl⟩ := planned
      refine Searches.choose (fun left => ?_) (fun left => ?_) left
      · exact first parts.1 frontPlanned on
          (refuses.of_subset fun u member => List.mem_append_left _ member) left
      · exact second parts.2 backPlanned on
          (refuses.of_subset fun u member => List.mem_append_right _ member) left
  | enclosed a ih =>
    rw [ofExpr?] at planned
    split at planned
    · exact settles_searches tame ‹_› planned on refuses left
    · exact ih tame planned on refuses left
  | group n a ih =>
    rw [ofExpr?] at planned
    split at planned
    · exact settles_searches tame ‹_› planned on refuses left
    · obtain ⟨inner, innerPlanned, rfl⟩ := Option.map_eq_some_iff.1 planned
      simp only [Expr.tame, Bool.and_eq_true] at tame
      -- Closing the group leaves the place, and with it what is refused.
      refine Searches.map (fun u => Thread.closeGroup_place u n) ?_
      refine ih (t := t.openGroup n) tame.1 innerPlanned on ?_ left
      intro u member left left' failed
      rw [← Thread.closeGroup_place u n]
      exact refuses _ (List.mem_map_of_mem member) left left' failed
  | rep a low high greedy ih =>
    rw [ofExpr?] at planned
    have parts := tame
    simp only [Expr.tame, Bool.and_eq_true, decide_eq_true_eq] at parts
    split at planned
    · exact settles_searches tame ‹_› planned on refuses left
    · obtain ⟨inner, innerPlanned, rfl⟩ := Option.map_eq_some_iff.1 planned
      -- The body takes something, so no iteration is refused for being empty.
      have takes : (a.minLength == 0) = false := by simpa using Nat.ne_of_gt parts.1.2
      simp only [run, takes, Bool.and_false]
      refine iterate_searches (a.advances_ways parts.1.2 subject) a.ways_placed
        (fun on => ih parts.1.1 innerPlanned on) _ on ?_ ?_ ?_ refuses left
      · simp only [List.length_append, List.length_replicate]
        omega
      · simpa using parts.2
      · cases high with
        | none => exact Nat.le_refl _
        | some high => simp [Spares, Expr.spare]
  | look d negative a ih =>
    cases d <;> cases negative <;>
      simp only [Expr.tame, Bool.and_eq_true, Bool.not_eq_true', Bool.false_eq_true] at tame
    obtain ⟨⟨tame, groupless⟩, direct⟩ := tame
    simp only [ofExpr?] at planned
    obtain ⟨inner, innerPlanned, rfl⟩ := Option.map_eq_some_iff.1 planned
    obtain rfl := ofExpr?_direct direct innerPlanned
    exact ahead_searches tame (List.isEmpty_iff.1 groupless) direct on refuses left
  | atomic a ih | backref n => cases tame

end Run

end RoutePattern.Plan
