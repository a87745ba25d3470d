import RoutePattern.Proofs.Expr.Ends
import RoutePattern.Proofs.Expr.Leads

/-! # Following every way at once misses no place

The threads behind an expression that needs no search stand at the places that the expression leads to,
and nowhere else (`stands_ends`). Iterations may take nothing here. What a search with shared marks leaves
out has been met before: in the end, whatever lies one iteration behind a mark is listed or marked itself
(`Traced`), so that a course of iterations can be followed from mark to mark (`Met.covers`).
-/

namespace RoutePattern

open Place (Advancing Moves Steps steps_zero steps_succ steps_add)

namespace Thread

/-- A thread of the list stands at the place. -/
def Stands (ts : List Thread) (q : Place) : Prop := ∃ t ∈ ts, t.place = q

section Stands

variable {subject : Text} {ts ts' : List Thread} {t : Thread} {p q : Place}

theorem stands_single : Stands [t] q ↔ q = t.place := by simp [Stands, eq_comm]

theorem stands_append : Stands (ts ++ ts') q ↔ Stands ts q ∨ Stands ts' q := by
  simp [Stands, or_and_right, exists_or]

theorem stands_prefer {greedy : Bool} :
    Stands (prefer greedy ts ts') q ↔ Stands ts q ∨ Stands ts' q := by
  cases greedy <;> simp [prefer, stands_append, or_comm]

theorem stands_flatMap {f : Thread → List Thread} :
    Stands (ts.flatMap f) q ↔ ∃ t ∈ ts, Stands (f t) q := by
  simp only [Stands, List.mem_flatMap]
  constructor
  · rintro ⟨u, ⟨t, listed, inside⟩, same⟩
    exact ⟨t, listed, u, inside, same⟩
  · rintro ⟨t, listed, u, inside, same⟩
    exact ⟨u, ⟨t, listed, inside⟩, same⟩

/-- A change of threads that keeps their places. -/
theorem stands_map {f : Thread → Thread} (keeps : ∀ u, (f u).place = u.place) :
    Stands (ts.map f) q ↔ Stands ts q := by
  simp [Stands, keeps]

theorem exists_step?_iff {s : CharSet} :
    (∃ u, t.step? s = some u ∧ u.place = q) ↔ ∃ c, s.has c = true ∧ t.place.next? = some (c, q) := by
  unfold step?
  cases t.place.next? with
  | none => simp
  | some step =>
    obtain ⟨c, p⟩ := step
    by_cases held : s.has c = true
    · simp [held]
    · simp only [held, Bool.false_eq_true, if_false, reduceCtorEq, false_and, exists_false,
        Option.some.injEq, Prod.mk.injEq, false_iff]
      rintro ⟨_, held', rfl, -⟩
      exact held held'

theorem stands_distinct (on : ∀ t ∈ ts, t.place.On subject) :
    Stands (distinct ts) q ↔ Stands ts q := by
  constructor
  · rintro ⟨t, listed, same⟩
    exact ⟨t, (mem_of_mem_distinctFrom listed).1, same⟩
  · rintro ⟨t, listed, rfl⟩
    obtain ⟨u, kept, same⟩ := at_distinct.2 ⟨t, listed, rfl⟩
    have onKept := on u (mem_of_mem_distinctFrom kept).1
    exact ⟨u, kept, onKept.eq_of_index (on t listed) same⟩

end Stands

/-- One iteration leads from each place where the steps lead. -/
structure Follows (subject : Text) (R : Place → Place → Prop) (body : Thread → List Thread) :
    Prop where
  moves : Moves subject R
  stands : ∀ {t : Thread} {q : Place}, t.place.On subject → (Stands (body t) q ↔ R t.place q)

section Follow

variable {subject : Text} {R : Place → Place → Prop} {body : Thread → List Thread} {greedy : Bool}
  {key : Nat → Nat → Nat} {room : Nat → Thread → Prop} {t u : Thread} {ts : List Thread} {p q : Place}

theorem Follows.step (follows : Follows subject R body) (on : t.place.On subject)
    (member : u ∈ body t) : R t.place u.place :=
  (follows.stands on).1 ⟨u, member, rfl⟩

theorem Follows.on (follows : Follows subject R body) (on : t.place.On subject)
    (member : u ∈ body t) : u.place.On subject :=
  follows.moves.on on (follows.step on member)

/-- The iterations that take characters. -/
theorem Follows.advancing (follows : Follows subject R body) :
    Follows subject (Advancing R) fun t => (body t).filter fun u => t.index < u.index where
  moves := follows.moves.advancing
  stands := by
    intro t q on
    rw [Advancing, ← follows.stands on]
    constructor
    · rintro ⟨u, kept, rfl⟩
      obtain ⟨member, further⟩ := List.mem_filter.1 kept
      exact ⟨⟨u, member, rfl⟩, of_decide_eq_true further⟩
    · rintro ⟨⟨u, member, rfl⟩, further⟩
      exact ⟨u, List.mem_filter.2 ⟨member, decide_eq_true further⟩, rfl⟩

theorem Follows.stands_times (follows : Follows subject R body) (low : Nat)
    (on : ∀ t ∈ ts, t.place.On subject) :
    Stands (times body low ts) q ↔ ∃ p, Stands ts p ∧ Steps R low p q := by
  induction low generalizing ts with
  | zero => simp [times, steps_zero]
  | succ low ih =>
    have onNext : ∀ u ∈ ts.flatMap body, u.place.On subject := by
      intro u member
      obtain ⟨t, listed, inside⟩ := List.mem_flatMap.1 member
      exact follows.on (on t listed) inside
    rw [times, ih (distinct_preserve onNext)]
    simp only [stands_distinct onNext, stands_flatMap, steps_succ]
    constructor
    · rintro ⟨r, ⟨t, listed, inside⟩, rest⟩
      exact ⟨t.place, ⟨t, listed, rfl⟩, r, (follows.stands (on t listed)).1 inside, rest⟩
    · rintro ⟨_, ⟨t, listed, rfl⟩, r, first, rest⟩
      exact ⟨r, ⟨t, listed, (follows.stands (on t listed)).2 first⟩, rest⟩

/-! ## What is listed -/

theorem Follows.steps_of_marked (follows : Follows subject R body) {n : Nat} {done : Marks}
    (on : t.place.On subject) (member : u ∈ (marked key body greedy n t done).1) :
    ∃ k ≤ n, Steps R k t.place u.place := by
  induction n generalizing t done u with
  | zero =>
    obtain rfl : u = t := by simpa [marked] using member
    exact ⟨0, Nat.le_refl 0, .none _⟩
  | succ n ih =>
    simp only [marked] at member
    split at member
    · cases member
    · rcases mem_prefer.1 member with further | stop
      · refine gather_preserve (P := fun u => ∃ k ≤ n + 1, Steps R k t.place u.place)
          (fun v inside done u found => ?_) _ u further
        obtain ⟨k, fewer, rest⟩ := ih (follows.on on inside) found
        exact ⟨k + 1, Nat.succ_le_succ fewer, .next (follows.step on inside) rest⟩
      · obtain rfl : u = t := by simpa using stop
        exact ⟨0, Nat.zero_le _, .none _⟩

theorem Follows.steps_of_onceOrMore (follows : Follows subject R body) {done : Marks}
    (on : t.place.On subject) (member : u ∈ (onceOrMore body greedy t done).1) :
    ∃ k, Steps R (k + 1) t.place u.place := by
  refine gather_preserve (P := fun u => ∃ k, Steps R (k + 1) t.place u.place)
    (fun v inside done u found => ?_) _ u member
  have first := follows.step on inside
  split at found
  · obtain rfl : u = v := by simpa using found
    exact ⟨0, .next first (.none _)⟩
  · rw [loop_eq_marked] at found
    obtain ⟨k, -, rest⟩ := follows.advancing.steps_of_marked (follows.on on inside) found
    exact ⟨k, .next first rest.of_advancing⟩

/-! ## What is met -/

/-- The thread with so many iterations left has been listed, if it has none left, or marked. -/
def Met (key : Nat → Nat → Nat) (result : List Thread × Marks) : Nat → Thread → Prop
  | 0, t => Stands result.1 t.place
  | n + 1, t => result.2.has (key n t.index) = true

variable (subject body key room) in
/-- Behind each mark that is new stands a thread that is listed, and all that one iteration leads to from
there has been met. -/
structure Traced (done : Marks) (result : List Thread × Marks) : Prop where
  kept : ∀ k, done.has k = true → result.2.has k = true
  closed : ∀ k, result.2.has k = true → done.has k = true ∨
    ∃ n t, key n t.index = k ∧ room (n + 1) t ∧ t.place.On subject ∧ Stands result.1 t.place ∧
      ∀ u ∈ body t, Met key result n u

/-- What has been listed and marked may only grow. -/
structure Grows (result result' : List Thread × Marks) : Prop where
  listed : ∀ q, Stands result.1 q → Stands result'.1 q
  marked : ∀ k, result.2.has k = true → result'.2.has k = true

section Met

variable {result result' : List Thread × Marks} {done : Marks} {n : Nat}

theorem Met.grows (met : Met key result n t) (grows : Grows result result') : Met key result' n t := by
  cases n with
  | zero => exact grows.listed _ met
  | succ n => exact grows.marked _ met

theorem traced_refl (ts : List Thread) (done : Marks) :
    Traced subject body key room done (ts, done) where
  kept := fun _ => id
  closed := fun _ => .inl

theorem grows_left (kept : ∀ k, result.2.has k = true → result'.2.has k = true) :
    Grows result (result.1 ++ result'.1, result'.2) where
  listed := fun _ stands => stands_append.2 (.inl stands)
  marked := kept

theorem grows_right (ts : List Thread) (result' : List Thread × Marks) :
    Grows result' (ts ++ result'.1, result'.2) where
  listed := fun _ stands => stands_append.2 (.inr stands)
  marked := fun _ => id

theorem grows_prefer (greedy : Bool) (ts : List Thread) (result : List Thread × Marks) :
    Grows result (prefer greedy result.1 ts, result.2) where
  listed := fun _ stands => stands_prefer.2 (.inl stands)
  marked := fun _ => id

theorem Traced.grows (traced : Traced subject body key room done result)
    (grows : Grows result result') (same : result'.2 = result.2) :
    Traced subject body key room done result' where
  kept := fun k old => same ▸ traced.kept k old
  closed := by
    intro k mark
    refine (traced.closed k (same ▸ mark)).imp_right ?_
    rintro ⟨n, t, same, space, on, stands, met⟩
    exact ⟨n, t, same, space, on, grows.listed _ stands, fun u inside => (met u inside).grows grows⟩

/-- Marks that are old for the second of two searches are new for the first, or old for both. -/
theorem Traced.trans (first : Traced subject body key room done result)
    (second : Traced subject body key room result.2 result') :
    Traced subject body key room done (result.1 ++ result'.1, result'.2) where
  kept := fun k old => second.kept k (first.kept k old)
  closed := by
    intro k mark
    have earlier := grows_left second.kept
    have later := grows_right result.1 result'
    rcases second.closed k mark with old | ⟨n, t, same, space, on, stands, met⟩
    · refine (first.closed k old).imp_right ?_
      rintro ⟨n, t, same, space, on, stands, met⟩
      exact ⟨n, t, same, space, on, earlier.listed _ stands, fun u inside =>
        (met u inside).grows earlier⟩
    · exact .inr ⟨n, t, same, space, on, later.listed _ stands, fun u inside =>
        (met u inside).grows later⟩

/-- A search through several threads meets what it meets from each of them. -/
theorem gather_traced {f : Thread → Marks → List Thread × Marks}
    (met : List Thread × Marks → Thread → Prop)
    (grown : ∀ {result result' t}, met result t → Grows result result' → met result' t)
    (each : ∀ t ∈ ts, ∀ done, Traced subject body key room done (f t done) ∧ met (f t done) t)
    (done : Marks) :
    Traced subject body key room done (gather f ts done) ∧ ∀ t ∈ ts, met (gather f ts done) t := by
  induction ts generalizing done with
  | nil => exact ⟨traced_refl [] done, by simp⟩
  | cons t ts ih =>
    obtain ⟨here, first⟩ := each t List.mem_cons_self done
    obtain ⟨there, rest⟩ := ih (fun u later => each u (List.mem_cons_of_mem t later)) (f t done).2
    refine ⟨here.trans there, List.forall_mem_cons.2 ⟨?_, fun u later => ?_⟩⟩
    · exact grown first (grows_left there.kept)
    · exact grown (rest u later) (grows_right _ _)

variable (subject R body key room) in
/-- Keys tell places apart, and where they do not tell counts apart the counts do not matter. -/
structure Keyed : Prop where
  follows : Follows subject R body
  next : ∀ {n t u}, t.place.On subject → room (n + 1) t → u ∈ body t → room n u
  same : ∀ {n m t u}, t.place.On subject → u.place.On subject → room (n + 1) t → room (m + 1) u →
    key n t.index = key m u.index →
      t.index = u.index ∧ ∀ {k q}, Steps R k t.place q → k ≤ n + 1 → k ≤ m + 1

theorem marked_traced (keyed : Keyed subject R body key room) (greedy : Bool)
    (on : t.place.On subject) (space : room n t) (done : Marks) :
    Traced subject body key room done (marked key body greedy n t done) ∧
      Met key (marked key body greedy n t done) n t := by
  induction n generalizing t done with
  | zero => exact ⟨traced_refl [t] done, t, List.mem_singleton_self t, rfl⟩
  | succ n ih =>
    by_cases mark : done.has (key n t.index) = true
    · simp only [marked, mark, if_true]
      exact ⟨traced_refl [] done, mark⟩
    · obtain ⟨inside, met⟩ := gather_traced (fun result u => Met key result n u) Met.grows
        (fun u member done => ih (keyed.follows.on on member) (keyed.next on space member) done)
        (done.insert (key n t.index))
      simp only [marked, mark, Bool.false_eq_true, if_false]
      generalize gather (marked key body greedy n) (body t) (done.insert (key n t.index)) = result
        at inside met
      have grows := grows_prefer greedy [t] result
      refine ⟨⟨fun k old => inside.kept k (by simp [old]), fun k mark => ?_⟩,
        inside.kept _ (by simp)⟩
      rcases (inside.grows grows rfl).closed k mark with old | new
      · -- The mark is an old one or the one of this thread.
        simp only [Marks.has_insert, Bool.or_eq_true, decide_eq_true_eq] at old
        refine old.imp_right fun same => ⟨n, t, same, space, on, ?_, fun u member => ?_⟩
        · exact stands_prefer.2 (.inr (stands_single.2 rfl))
        · exact (met u member).grows grows
      · exact .inr new

/-- Where all marks are new, a course of iterations from a thread that has been met ends at a place that
is listed. -/
theorem Met.covers (keyed : Keyed subject R body key room)
    (traced : Traced subject body key room .none result) {k : Nat} (met : Met key result n t)
    (space : room n t) (on : t.place.On subject) (enough : k ≤ n) (steps : Steps R k t.place q) :
    Stands result.1 q := by
  induction k generalizing n t with
  | zero =>
    obtain rfl := steps_zero.1 steps
    cases n with
    | zero => exact met
    | succ n =>
      rcases traced.closed _ met with old | ⟨m, u, same, space', on', stands, -⟩
      · simp at old
      · have places := (keyed.same on' on space' space same).1
        rwa [on.eq_of_index on' places.symm]
  | succ k ih =>
    obtain ⟨n, rfl⟩ : ∃ m, n = m + 1 := ⟨n - 1, by omega⟩
    rcases traced.closed _ met with old | ⟨m, u, same, space', on', -, inside⟩
    · simp at old
    · -- The mark may have been set by another thread at the same place.
      obtain ⟨places, allowed⟩ := keyed.same on on' space space' same.symm
      have enough := allowed steps enough
      rw [on.eq_of_index on' places] at steps
      obtain ⟨r, first, rest⟩ := steps_succ.1 steps
      obtain ⟨v, member, rfl⟩ := (keyed.follows.stands on').2 first
      exact ih (inside v member) (keyed.next on' space' member) (keyed.follows.on on' member)
        (by omega) rest

end Met

/-! ## The iterations of the engine -/

/-- A key of `upTo` tells the place and the iterations that are left. -/
theorem upTo_keyed (follows : Follows subject R body) (n : Nat) :
    Keyed subject R body (fun m i => i * (n + 1) + m) fun m _ => m ≤ n where
  follows := follows
  next := fun _ space _ => by omega
  same := by
    intro m m' t u _ _ space space' equal
    obtain ⟨places, rfl⟩ := eq_of_upTo_key space space' equal
    exact ⟨places, fun _ => id⟩

/-- A key of `loop` tells the place alone, as any count beyond the text is as good as another. -/
theorem loop_keyed (follows : Follows subject R body) :
    Keyed subject (Advancing R) (fun t => (body t).filter fun u => t.index < u.index) (fun _ i => i)
      fun n t => t.place.after.length < n where
  follows := follows.advancing
  next := by
    intro n t u on space member
    have further := (follows.advancing.step on member).2
    have length := on.length
    have length' := (follows.advancing.on on member).length
    omega
  same := by
    intro n m t u on on' _ space places
    refine ⟨places, fun {k q} steps _ => ?_⟩
    simp only [Thread.index] at places
    have bound := steps.le_index
    have length := (steps.on follows.advancing.moves on).length
    have length' := on'.length
    omega

theorem Follows.stands_upTo (follows : Follows subject R body) (n : Nat)
    (on : ∀ t ∈ ts, t.place.On subject) :
    Stands (gather (upTo body greedy (n + 1) n) ts .none).1 q ↔
      ∃ p, Stands ts p ∧ ∃ k ≤ n, Steps R k p q := by
  rw [upTo_eq_marked]
  constructor
  · rintro ⟨u, member, rfl⟩
    refine gather_preserve (P := fun u => ∃ p, Stands ts p ∧ ∃ k ≤ n, Steps R k p u.place)
      (fun t listed done u found => ?_) _ u member
    exact ⟨t.place, ⟨t, listed, rfl⟩, follows.steps_of_marked (on t listed) found⟩
  · rintro ⟨_, ⟨t, listed, rfl⟩, k, enough, steps⟩
    have keyed := upTo_keyed follows n
    obtain ⟨traced, met⟩ := gather_traced (fun result u => Met _ result n u) Met.grows
      (fun u member done => marked_traced keyed greedy (on u member) (Nat.le_refl n) done) .none
    exact (met t listed).covers keyed traced (Nat.le_refl n) (on t listed) enough steps

/-- What one iteration led to has been listed, if it took nothing, or met with as many iterations left
as there are characters ahead. -/
def MetOnce (t : Thread) (result : List Thread × Marks) (u : Thread) : Prop :=
  u.index = t.index ∧ Stands result.1 u.place ∨
    Met (fun _ i => i) result (u.place.after.length + 1) u

theorem MetOnce.grows {result result' : List Thread × Marks} (met : MetOnce t result u)
    (grows : Grows result result') : MetOnce t result' u :=
  met.imp (And.imp_right (grows.listed _)) fun met => met.grows grows

variable (subject body) in
/-- The marks of a search through iterations that take characters. -/
def LoopTraced : Marks → List Thread × Marks → Prop :=
  Traced subject (fun t => (body t).filter fun u => t.index < u.index) (fun _ i => i)
    fun n t => t.place.after.length < n

theorem Follows.onceOrMore_traced (follows : Follows subject R body) (greedy : Bool)
    (on : t.place.On subject) (done : Marks) :
    LoopTraced subject body done (onceOrMore body greedy t done) ∧
      ∀ u ∈ body t, MetOnce t (onceOrMore body greedy t done) u := by
  refine gather_traced (MetOnce t) MetOnce.grows (fun u member done => ?_) done
  split
  · rename_i same
    exact ⟨traced_refl [u] done, .inl ⟨by simpa using same, stands_single.2 rfl⟩⟩
  · rw [loop_eq_marked]
    obtain ⟨traced, met⟩ := marked_traced (loop_keyed follows) greedy (follows.on on member)
      (Nat.lt_succ_self u.place.after.length) done
    exact ⟨traced, .inr met⟩

theorem Follows.covers_onceOrMore (follows : Follows subject R body)
    {result : List Thread × Marks} (traced : LoopTraced subject body .none result)
    (met : ∀ u ∈ body t, MetOnce t result u) (on : t.place.On subject) {k : Nat}
    (steps : Steps R (k + 1) t.place q) : Stands result.1 q := by
  have reach : ∀ {u j}, u ∈ body t → Met (fun _ i => i) result (u.place.after.length + 1) u →
      Steps (Advancing R) j u.place q → Stands result.1 q := by
    intro u j member met rest
    have onNext := follows.on on member
    have bound := rest.le_index
    have length := onNext.length
    have length' := (rest.on follows.moves.advancing onNext).length
    exact met.covers (loop_keyed follows) traced (Nat.lt_succ_self _) onNext (by omega) rest
  obtain ⟨j, -, course⟩ := steps.advancing follows.moves on
  cases j with
  | zero =>
    -- No iteration takes anything, so the first one comes back to where it started.
    obtain rfl := steps_zero.1 course
    obtain ⟨r, first, rest⟩ := steps_succ.1 steps
    obtain ⟨u, member, rfl⟩ := (follows.stands on).2 first
    have here := follows.moves.index first
    have there := rest.index_le follows.moves
    have back : u.place = t.place := (follows.on on member).eq_of_index on (by omega)
    rcases met u member with ⟨-, stands⟩ | met
    · rwa [back] at stands
    · exact reach member met (steps_zero.2 back.symm)
  | succ j =>
    obtain ⟨r, ⟨first, further⟩, rest⟩ := steps_succ.1 course
    obtain ⟨u, member, rfl⟩ := (follows.stands on).2 first
    rcases met u member with ⟨same, -⟩ | met
    · simp only [Thread.index] at same
      omega
    · exact reach member met rest

theorem Follows.stands_onceOrMore (follows : Follows subject R body)
    (on : ∀ t ∈ ts, t.place.On subject) :
    Stands (gather (onceOrMore body greedy) ts .none).1 q ↔
      ∃ p, Stands ts p ∧ ∃ k, 0 < k ∧ Steps R k p q := by
  constructor
  · rintro ⟨u, member, rfl⟩
    refine gather_preserve (P := fun u => ∃ p, Stands ts p ∧ ∃ k, 0 < k ∧ Steps R k p u.place)
      (fun t listed done u found => ?_) _ u member
    obtain ⟨k, steps⟩ := follows.steps_of_onceOrMore (on t listed) found
    exact ⟨t.place, ⟨t, listed, rfl⟩, k + 1, Nat.succ_pos k, steps⟩
  · rintro ⟨_, ⟨t, listed, rfl⟩, k, positive, steps⟩
    obtain ⟨k, rfl⟩ : ∃ m, k = m + 1 := ⟨k - 1, by omega⟩
    obtain ⟨traced, met⟩ := gather_traced (fun result t => ∀ u ∈ body t, MetOnce t result u)
      (fun met grows u member => (met u member).grows grows)
      (fun u member done => follows.onceOrMore_traced greedy (on u member) done) .none
    exact follows.covers_onceOrMore traced (met t listed) (on t listed) steps

theorem Follows.stands_anyNumber (follows : Follows subject R body)
    (on : ∀ t ∈ ts, t.place.On subject) :
    Stands (gather (anyNumber body greedy) ts .none).1 q ↔
      ∃ p, Stands ts p ∧ ∃ k, Steps R k p q := by
  constructor
  · rintro ⟨u, member, rfl⟩
    refine gather_preserve (P := fun u => ∃ p, Stands ts p ∧ ∃ k, Steps R k p u.place)
      (fun t listed done u found => ⟨t.place, ⟨t, listed, rfl⟩, ?_⟩) _ u member
    rcases mem_prefer.1 found with further | stop
    · obtain ⟨k, steps⟩ := follows.steps_of_onceOrMore (on t listed) further
      exact ⟨k + 1, steps⟩
    · obtain rfl : u = t := by simpa using stop
      exact ⟨0, .none _⟩
  · rintro ⟨_, ⟨t, listed, rfl⟩, k, steps⟩
    obtain ⟨traced, met⟩ := gather_traced
      (fun result t => Stands result.1 t.place ∧ ∀ u ∈ body t, MetOnce t result u)
      (fun met grows => ⟨grows.listed _ met.1, fun u member => (met.2 u member).grows grows⟩)
      (fun u member done => by
        obtain ⟨traced, met⟩ := follows.onceOrMore_traced greedy (on u member) done
        have grows := grows_prefer greedy [u] (onceOrMore body greedy u done)
        refine ⟨traced.grows grows rfl, stands_prefer.2 (.inr (stands_single.2 rfl)), ?_⟩
        exact fun v inside => (met v inside).grows grows) .none
    cases k with
    | zero =>
      rw [steps_zero.1 steps]
      exact (met t listed).1
    | succ k => exact follows.covers_onceOrMore traced (met t listed).2 (on t listed) steps

/-- Iterations that must be made, and then as many more as are allowed. -/
theorem exists_steps_iff {low : Nat} {allowed : Nat → Prop} :
    (∃ p, (∃ r, Stands ts r ∧ Steps R low r p) ∧ ∃ k, allowed k ∧ Steps R k p q) ↔
      ∃ p, Stands ts p ∧ ∃ n, (low ≤ n ∧ allowed (n - low)) ∧ Steps R n p q := by
  constructor
  · rintro ⟨p, ⟨r, stands, must⟩, k, allows, more⟩
    have spared : low + k - low = k := by omega
    exact ⟨r, stands, low + k, ⟨by omega, spared.symm ▸ allows⟩, steps_add.2 ⟨p, must, more⟩⟩
  · rintro ⟨r, stands, n, ⟨least, allows⟩, steps⟩
    obtain ⟨k, rfl⟩ : ∃ k, n = low + k := ⟨n - low, by omega⟩
    have spared : low + k - low = k := by omega
    obtain ⟨p, must, more⟩ := steps_add.1 steps
    exact ⟨p, ⟨r, stands, must⟩, k, spared ▸ allows, more⟩

theorem Follows.stands_distinct (follows : Follows subject R body) {us : List Thread}
    {allowed : Nat → Prop} (on : ∀ t ∈ ts, t.place.On subject)
    (stands : ∀ q, Stands us q ↔ ∃ p, Stands ts p ∧ ∃ k, allowed k ∧ Steps R k p q) :
    Stands (distinct us) q ↔ ∃ p, Stands ts p ∧ ∃ k, allowed k ∧ Steps R k p q := by
  have onAll : ∀ u ∈ us, u.place.On subject := by
    intro u member
    obtain ⟨_, ⟨t, listed, rfl⟩, k, -, steps⟩ := (stands u.place).1 ⟨u, member, rfl⟩
    exact steps.on follows.moves (on t listed)
  exact (Thread.stands_distinct onAll).trans (stands q)

/-- The iterations of the engine lead where as many steps as the range allows lead. -/
theorem Follows.stands_iterate (follows : Follows subject R body) {low : Nat} {high : Option Nat}
    (ordered : high.all (low ≤ ·) = true) (on : ∀ t ∈ ts, t.place.On subject) :
    Stands (iterate body greedy low high ts) q ↔
      ∃ p, Stands ts p ∧ ∃ n, (low ≤ n ∧ high.all (n ≤ ·) = true) ∧ Steps R n p q := by
  have onTimes : ∀ low, ∀ t ∈ times body low ts, t.place.On subject := fun low =>
    times_preserve (P := fun t => t.place.On subject) (fun t u on member => follows.on on member)
      low on
  unfold iterate
  split
  · rename_i high
    rw [follows.stands_distinct (onTimes low) fun q => follows.stands_upTo _ (onTimes low)]
    simp only [follows.stands_times low on, exists_steps_iff]
    have least : low ≤ high := by simpa using ordered
    refine exists_congr fun p => and_congr_right fun _ => exists_congr fun n => ?_
    refine and_congr_left fun _ => and_congr_right fun _ => ?_
    simp only [Option.all_some, decide_eq_true_eq]
    omega
  · have any : ∀ q, Stands (gather (anyNumber body greedy) ts .none).1 q ↔
        ∃ p, Stands ts p ∧ ∃ k, True ∧ Steps R k p q := by
      simpa using fun q => follows.stands_anyNumber on
    rw [follows.stands_distinct on any]
    simp
  · rename_i low
    rw [follows.stands_distinct (onTimes low) fun q => follows.stands_onceOrMore (onTimes low)]
    simp only [follows.stands_times low on, exists_steps_iff]
    refine exists_congr fun p => and_congr_right fun _ => exists_congr fun n => ?_
    refine and_congr_left fun _ => ?_
    simp only [Option.all_none, and_true]
    omega

end Follow

end Thread

namespace Expr

open Thread (Follows Stands)

variable {subject : Text}

/-- The threads behind an expression that needs no search stand where the expression leads. -/
theorem stands_ends {e : Expr} (direct : e.needsSearch [] = false) (ordered : e.ordered = true)
    {ts : List Thread} (on : ∀ t ∈ ts, t.place.On subject) {q : Place} :
    Stands (e.ends ts) q ↔ ∃ p, Stands ts p ∧ e.Leads p q := by
  induction e generalizing ts q with
  | empty => simp [ends, Leads]
  | char s =>
    simp only [Stands, ends, List.mem_filterMap, Leads]
    constructor
    · rintro ⟨u, ⟨t, listed, stepped⟩, rfl⟩
      exact ⟨t.place, ⟨t, listed, rfl⟩, Thread.exists_step?_iff.1 ⟨u, stepped, rfl⟩⟩
    · rintro ⟨_, ⟨t, listed, rfl⟩, leads⟩
      obtain ⟨u, stepped, same⟩ := Thread.exists_step?_iff.2 leads
      exact ⟨u, ⟨t, listed, stepped⟩, same⟩
  | anchor a =>
    simp only [Stands, ends, List.mem_filter, Leads]
    constructor
    · rintro ⟨t, ⟨listed, holds⟩, rfl⟩
      exact ⟨t.place, ⟨t, listed, rfl⟩, holds, rfl⟩
    · rintro ⟨_, ⟨t, listed, rfl⟩, holds, rfl⟩
      exact ⟨t, ⟨listed, holds⟩, rfl⟩
  | seq a b first second =>
    simp only [needsSearch, Bool.or_eq_false_iff] at direct
    simp only [Expr.ordered, Bool.and_eq_true] at ordered
    have front := fun {q} => first direct.1 ordered.1 on (q := q)
    have onFront : ∀ u ∈ a.ends ts, u.place.On subject := by
      intro u member
      obtain ⟨_, ⟨t, listed, rfl⟩, leads⟩ := front.1 ⟨u, member, rfl⟩
      exact leads.on (on t listed)
    rw [ends, second direct.2 ordered.2 onFront]
    simp only [front, Leads]
    constructor
    · rintro ⟨r, ⟨p, stands, left⟩, right⟩
      exact ⟨p, stands, r, left, right⟩
    · rintro ⟨p, stands, r, left, right⟩
      exact ⟨r, ⟨p, stands, left⟩, right⟩
  | alt a b first second =>
    simp only [needsSearch, Bool.or_eq_false_iff] at direct
    simp only [Expr.ordered, Bool.and_eq_true] at ordered
    have each : ∀ t ∈ ts, ∀ {q}, Stands (a.ends [t] ++ b.ends [t]) q ↔
        a.Leads t.place q ∨ b.Leads t.place q := by
      intro t listed q
      have alone : ∀ u ∈ [t], u.place.On subject := by simpa using on t listed
      rw [Thread.stands_append, first direct.1 ordered.1 alone, second direct.2 ordered.2 alone]
      simp [Thread.stands_single]
    have onEach : ∀ u ∈ ts.flatMap fun t => a.ends [t] ++ b.ends [t], u.place.On subject := by
      intro u member
      obtain ⟨t, listed, inside⟩ := List.mem_flatMap.1 member
      rcases (each t listed).1 ⟨u, inside, rfl⟩ with left | right
      · exact left.on (on t listed)
      · exact right.on (on t listed)
    rw [ends, Thread.stands_distinct onEach, Thread.stands_flatMap]
    constructor
    · rintro ⟨t, listed, inside⟩
      exact ⟨t.place, ⟨t, listed, rfl⟩, (each t listed).1 inside⟩
    · rintro ⟨_, ⟨t, listed, rfl⟩, leads⟩
      exact ⟨t, listed, (each t listed).2 leads⟩
  | enclosed a ih => exact ih direct ordered on
  | group n a ih =>
    simp only [needsSearch, Bool.or_eq_false_iff] at direct
    have onOpen : ∀ u ∈ ts.map (·.openGroup n), u.place.On subject := by simpa using on
    rw [ends, Thread.stands_map fun u => u.closeGroup_place n, ih direct.1 ordered onOpen]
    simp only [Thread.stands_map fun u : Thread => u.openGroup_place n, Leads]
  | rep a low high greedy ih =>
    simp only [Expr.ordered, Bool.and_eq_true] at ordered
    have follows : Follows subject a.Leads fun t => a.ends [t] := {
      moves := a.moves_leads subject
      stands := by
        intro t q on
        rw [ih direct ordered.1 (by simpa using on)]
        simp [Thread.stands_single] }
    rw [ends, follows.stands_iterate ?_ on]
    · simp only [Leads, and_assoc]
    · cases high with
      | none => rfl
      | some high => simpa using ordered.2
  | look d negative a | atomic a | backref n => cases direct

end Expr

end RoutePattern
