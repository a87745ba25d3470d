import RoutePattern.Expr.Ends
import RoutePattern.Proofs.Expr.Distinct

/-! # Iterations with shared marks

`marked` is the one search behind `upTo` and `loop`: a thread whose key is marked as done is left
out. The invariant of the search is `Covered`: whatever lies behind a mark has been listed before.
It does not speak of iterations that are still under way; as those started earlier in the text, none
of them is met again. So leaving a thread out never loses a place, and the result is alike to all the
ways there are (`marked_explored`).
-/

namespace RoutePattern.Thread

/-- At most so many iterations, each marked by a key of its count and its place. -/
def marked (key : Nat → Nat → Nat) (body : Thread → List Thread) (greedy : Bool) :
    Nat → Thread → Marks → List Thread × Marks
  | 0, t, done => ([t], done)
  | n + 1, t, done =>
    if done.has (key n t.index) then ([], done)
    else
      let (further, done) :=
        gather (marked key body greedy n) (body t) (done.insert (key n t.index))
      (prefer greedy further [t], done)

theorem upTo_eq_marked (body : Thread → List Thread) (greedy : Bool) (width n : Nat) :
    upTo body greedy width n = marked (fun n i => i * width + n) body greedy n := by
  induction n with
  | zero => rfl
  | succ n ih =>
    funext t done
    simp only [upTo, marked, ih]

theorem loop_eq_marked (body : Thread → List Thread) (greedy : Bool) (n : Nat) :
    loop body greedy n =
      marked (fun _ i => i) (fun t => (body t).filter fun u => t.index < u.index) greedy n := by
  induction n with
  | zero => rfl
  | succ n ih =>
    funext t done
    simp only [loop, marked, ih]

/-- Keys of a place and of a count within a width are different for different places and counts. -/
theorem eq_of_upTo_key {n m m' i i' : Nat} (space : m + 1 ≤ n) (space' : m' + 1 ≤ n)
    (equal : i * (n + 1) + m = i' * (n + 1) + m') : i = i' ∧ m = m' := by
  -- The count is the remainder of the key, so equal keys have equal counts and equal places.
  have left := Nat.mul_add_mod_of_lt (a := i) (b := n + 1) (c := m) (by omega)
  have right := Nat.mul_add_mod_of_lt (a := i') (b := n + 1) (c := m') (by omega)
  obtain rfl : m = m' := by rw [← left, ← right, equal]
  exact ⟨Nat.eq_of_mul_eq_mul_right (Nat.succ_pos n) (Nat.add_right_cancel equal), rfl⟩

/-- The setting of a search: keys tell places apart, and where they do not tell counts apart the
counts make no difference. -/
structure Setting (subject : Text) (body : Thread → List Thread) (greedy : Bool)
    (key : Nat → Nat → Nat) (room : Nat → Thread → Prop) : Prop where
  advances : Advances subject body
  next : ∀ {n t u}, t.place.On subject → room (n + 1) t → u ∈ body t → room n u
  same : ∀ {n m t u}, t.place.On subject → u.place.On subject → room (n + 1) t → room (m + 1) u →
    key n t.index = key m u.index →
      t.index = u.index ∧ ∀ i, At (atMost body greedy (n + 1) t) i → At (atMost body greedy (m + 1) u) i

section Search

variable {subject : Text} {body : Thread → List Thread} {greedy : Bool} {key : Nat → Nat → Nat}
  {room : Nat → Thread → Prop}

variable (subject body greedy key room) in
/-- Everything behind a mark at `start` or later is in `out`. -/
def Covered (out : List Thread) (done : Marks) (start : Nat) : Prop :=
  ∀ n u, u.place.On subject → room (n + 1) u → start ≤ u.index → done.has (key n u.index) = true →
    ∀ i, At (atMost body greedy (n + 1) u) i → At out i

variable (subject key room) in
/-- All new marks are at `start` or later. -/
def Later (done done' : Marks) (start : Nat) : Prop :=
  ∀ n u, u.place.On subject → room (n + 1) u → done'.has (key n u.index) = true →
    done.has (key n u.index) = true ∨ start ≤ u.index

variable (subject body greedy key room) in
/-- The result, behind what is in `out`, is worth all of `full`. -/
structure Explored (out : List Thread) (done : Marks) (start : Nat) (result : List Thread × Marks)
    (full : List Thread) : Prop where
  alike : Alike (out ++ result.1) (out ++ full)
  covered : Covered subject body greedy key room (out ++ result.1) result.2 start
  later : Later subject key room done result.2 start

/-- What has been listed when the search goes on behind `t`: lazily, `t` itself comes first. -/
def leading (greedy : Bool) (out : List Thread) (t : Thread) : List Thread :=
  if greedy then out else out ++ [t]

theorem alike_prefer {out further further' : List Thread} {t : Thread}
    (alike : Alike (leading greedy out t ++ further) (leading greedy out t ++ further')) :
    Alike (out ++ prefer greedy further [t]) (out ++ prefer greedy further' [t]) := by
  cases greedy
  · simpa [leading, prefer] using alike
  · simpa [leading, prefer] using alike.append (.refl [t])

theorem at_prefer {out further : List Thread} {t : Thread} {i : Nat}
    (found : At (leading greedy out t ++ further) i) : At (out ++ prefer greedy further [t]) i := by
  cases greedy <;>
    simp only [leading, prefer, at_append, if_true, if_false, Bool.false_eq_true] at found ⊢ <;> tauto

theorem Covered.mono {out out' : List Thread} {done : Marks} {start : Nat}
    (covered : Covered subject body greedy key room out done start)
    (more : ∀ i, At out i → At out' i) : Covered subject body greedy key room out' done start :=
  fun n u on space behind mark i found => more i (covered n u on space behind mark i found)

theorem at_leading {out : List Thread} {t : Thread} {i : Nat} (found : At out i) :
    At (leading greedy out t) i := by
  cases greedy <;> simp [leading, at_append, found]

theorem gather_explored {f : Thread → Marks → List Thread × Marks} {full : Thread → List Thread}
    {start : Nat} {ts : List Thread}
    (each : ∀ t ∈ ts, ∀ out done, Covered subject body greedy key room out done start →
      Explored subject body greedy key room out done start (f t done) (full t))
    {out : List Thread} {done : Marks}
    (covered : Covered subject body greedy key room out done start) :
    Explored subject body greedy key room out done start (gather f ts done) (ts.flatMap full) := by
  induction ts generalizing out done with
  | nil =>
    refine ⟨.refl _, ?_, fun n u _ _ mark => .inl mark⟩
    simpa [gather] using covered
  | cons t ts ih =>
    have first := each t List.mem_cons_self out done covered
    have rest := ih (fun u member => each u (List.mem_cons_of_mem _ member)) first.covered
    simp only [gather, List.flatMap_cons]
    refine ⟨?_, ?_, ?_⟩
    · simp only [← List.append_assoc]
      exact rest.alike.trans (first.alike.append (.refl _))
    · simpa only [← List.append_assoc] using rest.covered
    · intro n u on space mark
      rcases rest.later n u on space mark with earlier | late
      · exact first.later n u on space earlier
      · exact .inr late

/-- Behind a thread that is not marked, all iterations that are still to come are covered. -/
theorem Covered.enter (setting : Setting subject body greedy key room) {out : List Thread}
    {done : Marks} {start n : Nat} {t : Thread}
    (covered : Covered subject body greedy key room out done start) (on : t.place.On subject)
    (space : room (n + 1) t) (reached : start ≤ t.index) :
    Covered subject body greedy key room out (done.insert (key n t.index)) (t.index + 1) := by
  intro m u onOther spaceOther behind mark i found
  simp only [Marks.has_insert, Bool.or_eq_true, decide_eq_true_eq] at mark
  rcases mark with earlier | here
  · exact covered m u onOther spaceOther (by omega) earlier i found
  · -- The new mark is the one of the thread, which stands before the new start.
    have same := (setting.same on onOther space spaceOther here).1
    omega

theorem marked_explored (setting : Setting subject body greedy key room) {n : Nat} {t : Thread}
    {out : List Thread} {done : Marks} {start : Nat} (on : t.place.On subject) (space : room n t)
    (reached : start ≤ t.index) (covered : Covered subject body greedy key room out done start) :
    Explored subject body greedy key room out done start (marked key body greedy n t done)
      (atMost body greedy n t) := by
  induction n generalizing t out done start with
  | zero =>
    refine ⟨.refl _, ?_, fun n u _ _ mark => .inl mark⟩
    intro m u onOther spaceOther behind mark i found
    exact at_append.2 (.inl (covered m u onOther spaceOther behind mark i found))
  | succ n ih =>
    by_cases mark : done.has (key n t.index) = true
    · -- The thread is not searched again: what it could add has been listed.
      simp only [marked, mark, if_true]
      refine ⟨?_, by simpa using covered, fun m u _ _ mark => .inl mark⟩
      rw [List.append_nil]
      exact (Alike.append_taken (covered n t on space reached mark)).symm
    · have inside : Explored subject body greedy key room (leading greedy out t)
          (done.insert (key n t.index)) (t.index + 1)
          (gather (marked key body greedy n) (body t) (done.insert (key n t.index)))
          ((body t).flatMap (atMost body greedy n)) := by
        refine gather_explored (fun u member out done covered => ?_) ?_
        · exact ih (setting.advances.on on member) (setting.next on space member)
            (setting.advances.index on member) covered
        · exact (covered.enter setting on space reached).mono fun i => at_leading
      simp only [marked, mark, Bool.false_eq_true, if_false]
      have alike : Alike (out ++ prefer greedy _ [t]) (out ++ atMost body greedy (n + 1) t) :=
        alike_prefer inside.alike
      refine ⟨alike, ?_, ?_⟩
      · -- A mark is an old one, the one of this thread, or one that was set behind it.
        intro m u onOther spaceOther behind marked' i found
        rcases inside.later m u onOther spaceOther marked' with earlier | late
        · simp only [Marks.has_insert, Bool.or_eq_true, decide_eq_true_eq] at earlier
          rcases earlier with earlier | here
          · exact at_append.2 (.inl (covered m u onOther spaceOther behind earlier i found))
          · rw [alike.at_iff, at_append]
            exact .inr ((setting.same onOther on spaceOther space here.symm).2 i found)
        · exact at_prefer (inside.covered m u onOther spaceOther late marked' i found)
      · intro m u onOther spaceOther marked'
        rcases inside.later m u onOther spaceOther marked' with earlier | late
        · simp only [Marks.has_insert, Bool.or_eq_true, decide_eq_true_eq] at earlier
          rcases earlier with earlier | here
          · exact .inl earlier
          · have same := (setting.same on onOther space spaceOther here).1
            exact .inr (by omega)
        · exact .inr (by omega)

end Search

end RoutePattern.Thread
