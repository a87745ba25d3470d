import RoutePattern.Proofs.Expr.Marked

/-! # Following every way at once is right

For a tame expression that needs no search, `Expr.ends` lists the first of all ways to each place, in
their order of preference (`ends_alike`). So its first thread is the most preferred way of all.
-/

namespace RoutePattern

namespace Thread

/-! ## What iterations keep -/

section Preserve

variable {P : Thread → Prop} {body : Thread → List Thread} {greedy : Bool}

theorem distinct_preserve {ts : List Thread} (each : ∀ t ∈ ts, P t) : ∀ t ∈ distinct ts, P t :=
  fun t member => each t (mem_of_mem_distinctFrom member).1

theorem gather_preserve {f : Thread → Marks → List Thread × Marks} {ts : List Thread}
    (each : ∀ t ∈ ts, ∀ done, ∀ u ∈ (f t done).1, P u) (done : Marks) :
    ∀ u ∈ (gather f ts done).1, P u := by
  induction ts generalizing done with
  | nil => intro u member; cases member
  | cons t ts ih =>
    intro u member
    rcases List.mem_append.1 member with first | rest
    · exact each t List.mem_cons_self done u first
    · exact ih (fun t later => each t (List.mem_cons_of_mem _ later)) _ u rest

theorem marked_preserve {key : Nat → Nat → Nat} (keeps : ∀ t u, P t → u ∈ body t → P u) {n : Nat}
    {t : Thread} (holds : P t) (done : Marks) : ∀ u ∈ (marked key body greedy n t done).1, P u := by
  induction n generalizing t done with
  | zero => simpa [marked] using holds
  | succ n ih =>
    intro u member
    simp only [marked] at member
    split at member
    · -- A marked thread lists nothing.
      cases member
    · rcases mem_prefer.1 member with further | stop
      · exact gather_preserve (fun v inside done => ih (keeps t v holds inside) done) _ u further
      · simp_all

theorem onceOrMore_preserve (keeps : ∀ t u, P t → u ∈ body t → P u) {t : Thread} (holds : P t)
    (done : Marks) : ∀ u ∈ (onceOrMore body greedy t done).1, P u := by
  refine gather_preserve (fun v inside done u member => ?_) done
  have first := keeps t v holds inside
  split at member
  · simp_all
  · rw [loop_eq_marked] at member
    exact marked_preserve (fun t u holds member => keeps t u holds (List.mem_of_mem_filter member))
      first done u member

theorem times_preserve (keeps : ∀ t u, P t → u ∈ body t → P u) (low : Nat) {ts : List Thread}
    (each : ∀ t ∈ ts, P t) : ∀ t ∈ times body low ts, P t := by
  induction low generalizing ts with
  | zero => exact each
  | succ low ih =>
    refine ih (distinct_preserve fun u member => ?_)
    obtain ⟨t, listed, inside⟩ := List.mem_flatMap.1 member
    exact keeps t u (each t listed) inside

theorem iterate_preserve (keeps : ∀ t u, P t → u ∈ body t → P u) {low : Nat} {high : Option Nat}
    {ts : List Thread} (each : ∀ t ∈ ts, P t) : ∀ t ∈ iterate body greedy low high ts, P t := by
  have begun := fun low => times_preserve keeps low each
  unfold iterate
  split
  · refine distinct_preserve (gather_preserve (fun t member done => ?_) _)
    rw [upTo_eq_marked]
    exact marked_preserve keeps (begun _ t member) done
  · refine distinct_preserve (gather_preserve (fun t member done u found => ?_) _)
    rcases mem_prefer.1 found with further | stop
    · exact onceOrMore_preserve keeps (each t member) done u further
    · have same : u = t := by simpa using stop
      exact same ▸ each t member
  · exact distinct_preserve (gather_preserve
      (fun t member done => onceOrMore_preserve keeps (begun _ t member) done) _)

end Preserve

/-! ## Iterations are alike -/

section Iterations

variable {subject : Text} {body : Thread → List Thread} {greedy : Bool}

theorem Steady.flatMap {f g : Thread → List Thread} (steady : Steady subject f)
    (advances : Advances subject f) (steady' : Steady subject g) :
    Steady subject fun t => (f t).flatMap g := by
  intro t t' on on' same i found
  -- The middle threads need not be equal: they stand at one place, and that is enough for `g`.
  obtain ⟨u, member, inside⟩ := at_flatMap.1 found
  obtain ⟨u', member', index⟩ := steady on on' same u.index ⟨u, member, rfl⟩
  exact at_flatMap.2 ⟨u', member',
    steady' (advances.on on member) (advances.on on' member') index.symm i inside⟩

theorem Steady.atMost (steady : Steady subject body) (advances : Advances subject body) (n : Nat) :
    Steady subject (atMost body greedy n) := by
  induction n with
  | zero =>
    intro t t' _ _ same i found
    simpa [Thread.atMost, At, same] using found
  | succ n ih =>
    intro t t' on on' same i found
    have further := steady.flatMap advances ih on on' same i
    have stop : At [t] i → At [t'] i := by simp [At, same]
    cases greedy <;> simp only [Thread.atMost, prefer, at_append, if_true, if_false,
      Bool.false_eq_true] at found ⊢
    · exact found.imp stop further
    · exact found.imp further stop

theorem Steady.iterations (steady : Steady subject body) (advances : Advances subject body)
    (spare low : Nat) : Steady subject (iterations body greedy spare low) := by
  induction low with
  | zero => exact steady.atMost advances spare
  | succ low ih => exact steady.flatMap advances ih

/-- A key of `upTo` is made of the place and of the iterations that are left. -/
theorem upTo_setting (advances : Advances subject body) (steady : Steady subject body) (n : Nat) :
    Setting subject body greedy (fun m i => i * (n + 1) + m) fun m _ => m ≤ n where
  advances := advances
  next := fun _ space _ => by omega
  same := by
    intro m m' t u on on' space space' equal
    obtain ⟨places, rfl⟩ := eq_of_upTo_key space space' equal
    exact ⟨places, steady.atMost advances (m + 1) on on' places⟩

/-- A key of `loop` is the place alone: any count beyond the text is as good as another. -/
theorem loop_setting (advances : Advances subject body) (steady : Steady subject body) :
    Setting subject body greedy (fun _ i => i) fun n t => t.place.after.length < n where
  advances := advances
  next := fun on space member => by
    have shorter := advances.after_lt on member
    omega
  same := by
    intro n m t u on on' space space' places
    refine ⟨places, fun i found => ?_⟩
    -- Both counts exceed what is left of the text, so they allow the same iterations.
    have enough := on.length
    have enough' := on'.length
    simp only [Thread.index] at places
    rw [atMost_stable advances on (n := m + 1) (by omega) (by omega)] at found
    exact steady.atMost advances (m + 1) on on' places i found

theorem covered_none {key : Nat → Nat → Nat} {room : Nat → Thread → Prop} {start : Nat}
    (out : List Thread) : Covered subject body greedy key room out .none start := by
  intro n u _ _ _ mark
  simp at mark

theorem Advances.flatMap_on {f : Thread → List Thread} (advances : Advances subject f)
    {ts : List Thread} (on : ∀ t ∈ ts, t.place.On subject) :
    ∀ u ∈ ts.flatMap f, u.place.On subject := by
  intro u member
  obtain ⟨t, listed, inside⟩ := List.mem_flatMap.1 member
  exact advances.on (on t listed) inside

/-- Where one iteration is alike, any number of them is. -/
theorem atMost_congr {f g : Thread → List Thread} (advances : Advances subject f)
    (advances' : Advances subject g) (steady : Steady subject g)
    (alike : ∀ t : Thread, t.place.On subject → Alike (f t) (g t)) (n : Nat) {t : Thread}
    (on : t.place.On subject) : Alike (atMost f greedy n t) (atMost g greedy n t) := by
  induction n generalizing t with
  | zero => exact .refl _
  | succ n ih =>
    have further : Alike ((f t).flatMap (atMost f greedy n)) ((g t).flatMap (atMost g greedy n)) :=
      (Alike.flatMap_congr fun u member => ih (advances.on on member)).trans
        ((alike t on).flatMap (steady.atMost advances' n) (fun u => advances.on on)
          fun u => advances'.on on)
    cases greedy
    · exact (Alike.refl [t]).append further
    · exact further.append (.refl [t])

/-! ## The iterations of the engine -/

variable {ways : Thread → List Thread}

/-- The body of a repetition, as the engine runs it and as it is spoken of. -/
structure Body (subject : Text) (body ways : Thread → List Thread) : Prop where
  advances : Advances subject body
  reference : Advances subject ways
  steady : Steady subject ways
  alike : ∀ t : Thread, t.place.On subject → Alike (body t) (ways t)

namespace Body

theorem bodySteady (setup : Body subject body ways) : Steady subject body := by
  intro t t' on on' same i found
  rw [(setup.alike t on).at_iff] at found
  rw [(setup.alike t' on').at_iff]
  exact setup.steady on on' same i found

theorem flatMap (setup : Body subject body ways) {f : Thread → List Thread}
    (steady : Steady subject f) {ts : List Thread} (on : ∀ t ∈ ts, t.place.On subject) :
    Alike ((ts.flatMap body).flatMap f) ((ts.flatMap ways).flatMap f) := by
  have each : Alike (ts.flatMap body) (ts.flatMap ways) :=
    Alike.flatMap_congr fun t member => setup.alike t (on t member)
  exact each.flatMap steady (setup.advances.flatMap_on on) (setup.reference.flatMap_on on)

theorem times_alike (setup : Body subject body ways) (spare low more : Nat) {ts : List Thread}
    (on : ∀ t ∈ ts, t.place.On subject) :
    Alike ((times body low ts).flatMap (iterations ways greedy spare more))
      (ts.flatMap (iterations ways greedy spare (low + more))) := by
  induction low generalizing ts with
  | zero => rw [Nat.zero_add]; exact .refl _
  | succ low ih =>
    have onBody := setup.advances.flatMap_on on
    have steady : Steady subject (iterations ways greedy spare (low + more)) :=
      setup.steady.iterations setup.reference spare (low + more)
    -- First the later iterations, then the duplicates that one iteration left out, then that one.
    have step := ih (distinct_preserve onBody)
    have kept := (Alike.distinct_left (ts.flatMap body)).flatMap steady
      (distinct_preserve onBody) onBody
    have whole := (step.trans kept).trans (setup.flatMap steady on)
    rw [List.flatMap_assoc] at whole
    rw [Nat.succ_add]
    exact whole

theorem upTo_alike (setup : Body subject body ways) (n : Nat) {ts : List Thread}
    (on : ∀ t ∈ ts, t.place.On subject) :
    Alike (gather (upTo body greedy (n + 1) n) ts .none).1 (ts.flatMap (atMost ways greedy n)) := by
  have each : ∀ t ∈ ts, ∀ out done,
      Covered subject body greedy (fun m i => i * (n + 1) + m) (fun m _ => m ≤ n) out done 0 →
      Explored subject body greedy (fun m i => i * (n + 1) + m) (fun m _ => m ≤ n) out done 0
        (upTo body greedy (n + 1) n t done) (atMost body greedy n t) := by
    intro t member out done covered
    rw [upTo_eq_marked]
    exact marked_explored (upTo_setting setup.advances setup.bodySteady n) (on t member)
      (Nat.le_refl n) (Nat.zero_le _) covered
  -- Nothing is marked when the search starts.
  have explored := gather_explored each (covered_none [])
  exact explored.alike.trans (Alike.flatMap_congr fun t member =>
    atMost_congr setup.advances setup.reference setup.steady setup.alike n (on t member))

/-- The body without the iterations that take nothing. It has none. -/
def advancing (body : Thread → List Thread) (t : Thread) : List Thread :=
  (body t).filter fun u => t.index < u.index

theorem advancing_eq (setup : Body subject body ways) {t : Thread} (on : t.place.On subject) :
    advancing body t = body t :=
  List.filter_eq_self.2 fun u member => by simpa using setup.advances.index on member

theorem advancing_body (setup : Body subject body ways) : Body subject (advancing body) ways where
  advances := {
    on := fun on member => setup.advances.on on (List.mem_of_mem_filter member)
    index := fun on member => setup.advances.index on (List.mem_of_mem_filter member) }
  reference := setup.reference
  steady := setup.steady
  alike := fun t on => by
    rw [setup.advancing_eq on]
    exact setup.alike t on

theorem loop_alike (setup : Body subject body ways) {t : Thread} (on : t.place.On subject) :
    Alike ((body t).flatMap fun u => atMost (advancing body) greedy (u.place.after.length + 1) u)
      (iterations ways greedy subject.length 1 t) := by
  have setup' := setup.advancing_body
  have each : Alike
      ((body t).flatMap fun u => atMost (advancing body) greedy (u.place.after.length + 1) u)
      ((body t).flatMap (atMost ways greedy subject.length)) := by
    refine Alike.flatMap_congr fun u member => ?_
    have onNext := setup.advances.on on member
    -- No thread can make more iterations than there are characters.
    have bound := onNext.length
    rw [atMost_stable setup.reference onNext (m := subject.length)
      (n := u.place.after.length + 1) (by omega) (by omega)]
    exact atMost_congr setup'.advances setup'.reference setup'.steady setup'.alike _ onNext
  have steady : Steady subject (atMost ways greedy subject.length) :=
    setup.steady.atMost setup.reference subject.length
  have alone : ∀ u ∈ [t], u.place.On subject := by simpa using on
  have whole := setup.flatMap steady alone
  simp only [List.flatMap_cons, List.flatMap_nil, List.append_nil] at whole
  exact each.trans whole

theorem onceOrMore_explored (setup : Body subject body ways) {t : Thread} (on : t.place.On subject)
    {out : List Thread} {done : Marks}
    (covered : Covered subject (advancing body) greedy (fun _ i => i)
      (fun n t => t.place.after.length < n) out done 0) :
    Explored subject (advancing body) greedy (fun _ i => i) (fun n t => t.place.after.length < n)
      out done 0 (onceOrMore body greedy t done)
      ((body t).flatMap fun u => atMost (advancing body) greedy (u.place.after.length + 1) u) := by
  have setup' := setup.advancing_body
  refine gather_explored (fun u member out done covered => ?_) covered
  have next := setup.advances.index on member
  have other : (u.index == t.index) = false := by simpa using Nat.ne_of_gt next
  simp only [other, Bool.false_eq_true, if_false, loop_eq_marked]
  exact marked_explored (loop_setting setup'.advances setup'.bodySteady)
    (setup.advances.on on member) (Nat.lt_succ_self _) (Nat.zero_le _) covered

theorem onceOrMore_alike (setup : Body subject body ways) {ts : List Thread}
    (on : ∀ t ∈ ts, t.place.On subject) :
    Alike (gather (onceOrMore body greedy) ts .none).1
      (ts.flatMap (iterations ways greedy subject.length 1)) := by
  have each : ∀ t ∈ ts, ∀ out done,
      Covered subject (advancing body) greedy (fun _ i => i)
        (fun n t => t.place.after.length < n) out done 0 →
      Explored subject (advancing body) greedy (fun _ i => i)
        (fun n t => t.place.after.length < n) out done 0 (onceOrMore body greedy t done)
        ((body t).flatMap fun u => atMost (advancing body) greedy (u.place.after.length + 1) u) :=
    fun t member out done covered => setup.onceOrMore_explored (on t member) covered
  have explored := gather_explored each (covered_none [])
  exact explored.alike.trans (Alike.flatMap_congr fun t member => setup.loop_alike (on t member))

theorem anyNumber_alike (setup : Body subject body ways) {ts : List Thread}
    (on : ∀ t ∈ ts, t.place.On subject) :
    Alike (gather (anyNumber body greedy) ts .none).1
      (ts.flatMap (atMost ways greedy subject.length)) := by
  have each : ∀ t ∈ ts, ∀ out done,
      Covered subject (advancing body) greedy (fun _ i => i)
        (fun n t => t.place.after.length < n) out done 0 →
      Explored subject (advancing body) greedy (fun _ i => i)
        (fun n t => t.place.after.length < n) out done 0 (anyNumber body greedy t done)
        (prefer greedy
          ((body t).flatMap fun u => atMost (advancing body) greedy (u.place.after.length + 1) u)
          [t]) := by
    intro t member out done covered
    -- Lazily, the thread itself is listed before the search goes on.
    have led : Covered subject (advancing body) greedy (fun _ i => i)
        (fun n t => t.place.after.length < n) (leading greedy out t) done 0 :=
      covered.mono fun i => at_leading
    have inside := setup.onceOrMore_explored (on t member) led
    exact ⟨alike_prefer inside.alike, inside.covered.mono fun i => at_prefer, inside.later⟩
  have explored := gather_explored each (covered_none [])
  refine explored.alike.trans (Alike.flatMap_congr fun t member => ?_)
  have bound := (on t member).length
  have further : Alike
      ((body t).flatMap fun u => atMost (advancing body) greedy (u.place.after.length + 1) u)
      (iterations ways greedy subject.length 1 t) := setup.loop_alike (on t member)
  rw [atMost_stable setup.reference (on t member) (m := subject.length) (n := subject.length + 1)
    (by omega) (by omega)]
  cases greedy
  · exact (Alike.refl [t]).append further
  · exact further.append (.refl [t])

/-- The engine makes the iterations of a repetition as they are spoken of. -/
theorem iterate_alike (setup : Body subject body ways) (low : Nat) (high : Option Nat)
    {ts : List Thread} (on : ∀ t ∈ ts, t.place.On subject) :
    Alike (iterate body greedy low high ts)
      (ts.flatMap fun t => iterations ways greedy (Expr.spare low high t) low t) := by
  have begun := fun low =>
    times_preserve (fun t u on member => setup.advances.on on member) low on
  cases high with
  | some high =>
    -- The iterations that must be made, then up to as many as the range leaves.
    have first : Alike (gather (upTo body greedy (high - low + 1) (high - low))
        (times body low ts) .none).1 ((times body low ts).flatMap (atMost ways greedy (high - low))) :=
      setup.upTo_alike (high - low) (begun low)
    exact ((Alike.distinct_left _).trans first).trans (setup.times_alike (high - low) low 0 on)
  | none =>
    -- No thread has more to read than the whole text.
    have spared : (ts.flatMap fun t => iterations ways greedy (Expr.spare low none t) low t) =
        ts.flatMap (iterations ways greedy subject.length low) := by
      refine List.flatMap_congr fun t member => ?_
      have bound := (on t member).length
      exact iterations_stable setup.reference (on t member) (Nat.le_refl _) (by omega) low
    rw [spared]
    cases low with
    | zero => exact (Alike.distinct_left _).trans (setup.anyNumber_alike on)
    | succ low =>
      have first : Alike (gather (onceOrMore body greedy) (times body low ts) .none).1
          ((times body low ts).flatMap (iterations ways greedy subject.length 1)) :=
        setup.onceOrMore_alike (begun low)
      exact ((Alike.distinct_left _).trans first).trans
        (setup.times_alike subject.length low 1 on)

end Body

end Iterations

end Thread

/-! ## Expressions -/

namespace Expr

open Thread (Alike distinct)

variable {subject : Text}

theorem ends_on (e : Expr) {ts : List Thread} (on : ∀ t ∈ ts, t.place.On subject) :
    ∀ u ∈ e.ends ts, u.place.On subject := by
  induction e generalizing ts with
  | empty => exact on
  | char s =>
    intro u member
    obtain ⟨t, listed, step⟩ := List.mem_filterMap.1 member
    exact ways_on (e := char s) (on t listed) (Option.mem_toList.2 step)
  | anchor a => exact fun u member => on u (List.mem_of_mem_filter member)
  | seq a b first second => exact second (first on)
  | alt a b first second =>
    refine Thread.distinct_preserve fun u member => ?_
    obtain ⟨t, listed, inside⟩ := List.mem_flatMap.1 member
    have alone : ∀ u ∈ [t], u.place.On subject := by simpa using on t listed
    rcases List.mem_append.1 inside with left | right
    · exact first alone u left
    · exact second alone u right
  | enclosed a ih => exact ih on
  | group n a ih =>
    intro u member
    obtain ⟨v, inside, rfl⟩ := List.mem_map.1 member
    rw [Thread.closeGroup_place]
    refine ih (fun t opened => ?_) v inside
    obtain ⟨t, listed, rfl⟩ := List.mem_map.1 opened
    exact on t listed
  | rep a low high greedy ih =>
    exact Thread.iterate_preserve (fun t u on member => ih (by simpa using on) u member) on
  | look d negative a ih | atomic a ih | backref n => intro u member; simp [ends] at member

theorem distinct_map {f : Thread → Thread} (keeps : ∀ t, (f t).index = t.index) (ts : List Thread) :
    distinct (ts.map f) = (distinct ts).map f := by
  suffices general : ∀ seen : Marks,
      Thread.distinctFrom seen (ts.map f) = (Thread.distinctFrom seen ts).map f from general .none
  induction ts with
  | nil => exact fun _ => rfl
  | cons t ts ih =>
    intro seen
    simp only [List.map_cons, Thread.distinctFrom, keeps]
    split <;> simp [ih]

/-- Without a search, the engine finds the first way to each place. -/
theorem ends_alike {e : Expr} {referred : List Nat} (tame : e.tame = true)
    (direct : e.needsSearch referred = false) {ts : List Thread}
    (on : ∀ t ∈ ts, t.place.On subject) : Alike (e.ends ts) (ts.flatMap e.ways) := by
  induction e generalizing ts with
  | empty => simpa [ends, ways] using Alike.refl ts
  | char s =>
    have same : (char s).ends ts = ts.flatMap (char s).ways := by
      simp only [ends, ways, List.filterMap_eq_flatMap_toList]
    rw [same]
    exact .refl _
  | anchor a =>
    have same : (anchor a).ends ts = ts.flatMap (anchor a).ways := by
      clear on
      induction ts with
      | nil => rfl
      | cons t ts ih =>
        simp only [ends] at ih ⊢
        by_cases holds : a.holds t.place = true <;> simp [ways, holds, ih]
    rw [same]
    exact .refl _
  | seq a b first second =>
    simp only [Expr.tame, needsSearch, Bool.and_eq_true, Bool.or_eq_false_iff] at tame direct
    have front := first tame.1 direct.1 on
    have onWays : ∀ u ∈ ts.flatMap a.ways, u.place.On subject := by
      intro u member
      obtain ⟨t, listed, inside⟩ := List.mem_flatMap.1 member
      exact ways_on (on t listed) inside
    -- Places alone decide where the second part leads, so the first part may be exchanged.
    have back := second tame.2 direct.2 (ends_on a on)
    have whole := back.trans (front.flatMap (b.ways_placed.steady subject) (ends_on a on) onWays)
    rw [List.flatMap_assoc] at whole
    exact whole
  | alt a b first second =>
    simp only [Expr.tame, needsSearch, Bool.and_eq_true, Bool.or_eq_false_iff] at tame direct
    refine (Alike.distinct_left _).trans (Alike.flatMap_congr fun t listed => ?_)
    have alone : ∀ u ∈ [t], u.place.On subject := by simpa using on t listed
    simpa [ways] using (first tame.1 direct.1 alone).append (second tame.2 direct.2 alone)
  | enclosed a ih => exact ih tame direct on
  | group n a ih =>
    simp only [Expr.tame, needsSearch, Bool.and_eq_true, Bool.or_eq_false_iff] at tame direct
    have opened : ∀ u ∈ ts.map (·.openGroup n), u.place.On subject := by
      intro u member
      obtain ⟨t, listed, rfl⟩ := List.mem_map.1 member
      exact on t listed
    have inside := ih tame.1 direct.1 opened
    -- Closing the group moves no thread, so it leaves out no other duplicates.
    have whole := congrArg (List.map (·.closeGroup n)) inside
    have keeps : ∀ t : Thread, (t.closeGroup n).index = t.index := fun t => by simp [Thread.index]
    rw [← distinct_map keeps, ← distinct_map keeps] at whole
    simpa [Alike, ends, ways, List.flatMap_map, List.map_flatMap] using whole
  | rep a low high greedy ih =>
    simp only [Expr.tame, needsSearch, Bool.and_eq_true, decide_eq_true_eq] at tame direct
    have alone : ∀ t : Thread, t.place.On subject → ∀ u ∈ [t], u.place.On subject := by simp
    have alike : ∀ t : Thread, t.place.On subject → Alike (a.ends [t]) (a.ways t) := by
      intro t on
      simpa using ih tame.1.1 direct (alone t on)
    have reference := a.advances_ways tame.1.2 subject
    have setup : Thread.Body subject (fun t => a.ends [t]) a.ways := {
      advances := {
        on := fun on member => ends_on a (alone _ on) _ member
        index := by
          intro t u on member
          obtain ⟨v, way, same⟩ := (alike t on).at_iff.1 ⟨u, member, rfl⟩
          rw [← same]
          exact reference.index on way }
      reference := reference
      steady := a.ways_placed.steady subject
      alike := alike }
    exact setup.iterate_alike low high on
  | look d negative a ih => cases direct
  | atomic a ih | backref n => cases direct

/-- The engine's first thread is the most preferred way. -/
theorem head?_ends {e : Expr} {referred : List Nat} (tame : e.tame = true)
    (direct : e.needsSearch referred = false) {t : Thread} (on : t.place.On subject) :
    (e.ends [t]).head? = (e.ways t).head? := by
  have alone : ∀ u ∈ [t], u.place.On subject := by simpa using on
  simpa using (ends_alike tame direct alone).head?

end Expr

end RoutePattern
