import RoutePattern.Expr.Program
import RoutePattern.Proofs.Expr.Backtracking

/-! # Searching takes the first way from the first place

Both engines answer a search with the most preferred way from the first place that has any
(`search_answers`). Only a backtracking search gives up, and then it answers nothing.

An expression that holds at the start of the text only is tried at one place (`find?_anchored`).
-/

namespace RoutePattern

/-! ## Sequences of parts -/

namespace Expr

/-- The ways through parts one after another. -/
def waysThrough : List Expr → Thread → List Thread
  | [], t => [t]
  | e :: es, t => (e.ways t).flatMap (waysThrough es)

theorem waysThrough_append (es es' : List Expr) (t : Thread) :
    waysThrough (es ++ es') t = (waysThrough es t).flatMap (waysThrough es') := by
  induction es generalizing t with
  | nil => simp [waysThrough]
  | cons e es ih =>
    simp only [List.cons_append, waysThrough, List.flatMap_assoc]
    exact List.flatMap_congr fun u _ => ih u

theorem waysThrough_single (e : Expr) (t : Thread) : waysThrough [e] t = e.ways t := by
  simp [waysThrough]

/-- A part that may be left out is preferred to leaving it out. -/
theorem ways_optional (e : Expr) (t : Thread) :
    (rep e 0 (some 1) true).ways t = e.ways t ++ [t] := by
  simp [ways, spare, Thread.iterations, Thread.atMost, Thread.prefer]

theorem ways_ofParts (es : List Expr) (t : Thread) : (ofParts es).ways t = waysThrough es t := by
  induction es generalizing t with
  | nil => rfl
  | cons e es ih =>
    cases es with
    | nil => simp [ofParts, waysThrough]
    | cons e' es => exact List.flatMap_congr fun u _ => ih u

theorem tame_ofParts (es : List Expr) : (ofParts es).tame = es.all (·.tame) := by
  induction es with
  | nil => rfl
  | cons e es ih =>
    cases es with
    | nil => simp [ofParts]
    | cons e' es => simp only [ofParts, tame, ih, List.all_cons]

theorem needsSearch_ofParts (referred : List Nat) (es : List Expr) :
    (ofParts es).needsSearch referred = es.any (·.needsSearch referred) := by
  induction es with
  | nil => rfl
  | cons e es ih =>
    cases es with
    | nil => simp [ofParts]
    | cons e' es => simp only [ofParts, needsSearch, ih, List.any_cons]

theorem groups_ofParts (es : List Expr) : (ofParts es).groups = es.flatMap (·.groups) := by
  induction es with
  | nil => rfl
  | cons e es ih =>
    cases es with
    | nil => simp [ofParts]
    | cons e' es => simp only [ofParts, groups, ih, List.flatMap_cons]

theorem waysThrough_on {es : List Expr} {t u : Thread} {subject : Text} (on : t.place.On subject)
    (member : u ∈ waysThrough es t) : u.place.On subject := by
  rw [← ways_ofParts] at member
  exact ways_on on member

end Expr

/-! ## The places of a search -/

namespace Place

theorem onward_go_on {subject before rest : Text} {index : Nat}
    (on : (⟨index, before, rest⟩ : Place).On subject) :
    ∀ p ∈ onward.go index before rest, p.On subject := by
  induction rest generalizing index before with
  | nil => simpa [onward.go] using on
  | cons c rest ih =>
    intro p member
    rcases List.mem_cons.1 member with rfl | later
    · exact on
    · have index : index = before.length := on.index
      exact ih ⟨by simpa using on.text, by simp [index]⟩ p later

theorem start_onward_on (t : Text) : ∀ p ∈ (start t).onward, p.On t := onward_go_on (start_on t)

theorem onward_go_before {before rest : Text} (index : Nat) (moved : before ≠ []) :
    ∀ p ∈ onward.go index before rest, p.before ≠ [] := by
  induction rest generalizing index before with
  | nil => simpa [onward.go] using moved
  | cons c rest ih =>
    intro p member
    rcases List.mem_cons.1 member with rfl | later
    · exact moved
    · exact ih _ (List.cons_ne_nil c before) p later

/-- Behind the start of a text there is something before every place. -/
theorem start_onward (t : Text) :
    ∃ places, (start t).onward = start t :: places ∧ ∀ p ∈ places, p.before ≠ [] := by
  cases t with
  | nil => exact ⟨[], rfl, by simp⟩
  | cons c t => exact ⟨_, rfl, onward_go_before 1 (List.cons_ne_nil c [])⟩

end Place

/-! ## Searches -/

/-- What a search through places may answer. -/
def Outcome.Answers (e : Expr) (places : List Place) : Outcome → Prop
  | gaveUp => e.needsSearch [] = true
  | nothing => ∀ p ∈ places, e.ways (.ofPlace p) = []
  | found f => ∃ earlier later, places = earlier ++ f.start :: later ∧
      (∀ p ∈ earlier, e.ways (.ofPlace p) = []) ∧
      (e.ways (.ofPlace f.start)).head? = some f.thread

namespace Outcome

variable {e : Expr} {p : Place} {places : List Place}

theorem answers_here {t : Thread} (first : (e.ways (.ofPlace p)).head? = some t) :
    (found ⟨p, t⟩).Answers e (p :: places) :=
  ⟨[], places, rfl, by simp, first⟩

theorem Answers.later {o : Outcome} (none : e.ways (.ofPlace p) = [])
    (answers : o.Answers e places) : o.Answers e (p :: places) := by
  cases o with
  | gaveUp => exact answers
  | nothing => simpa [Answers, none] using answers
  | found f =>
    obtain ⟨earlier, later, rfl, before, first⟩ := answers
    exact ⟨p :: earlier, later, rfl, by simpa [none] using before, first⟩

end Outcome

namespace Program

variable {subject : Text} {e : Expr} {places : List Place}

/-- With nothing to follow, a run answers with the first way. -/
theorem run_found {p : Plan} (tame : e.tame = true)
    (planned : Plan.ofExpr? [] true .whole e = some p) {t : Thread} (on : t.place.On subject)
    (left : Plan.Budget) :
    match p.run t Plan.accept left with
    | .exhausted => True
    | .failed _ => e.ways t = []
    | .found u _ => (e.ways t).head? = some u := by
  -- What is found is accepted, so no place is refused.
  have accepts : Plan.Refuses (fun _ => False) Plan.accept (e.ways t) := by
    intro u member left returns failed
    cases failed
  have searched := Plan.run_searches tame planned on accepts left
  cases answer : p.run t Plan.accept left with
  | exhausted => trivial
  | failed returns =>
    rw [answer] at searched
    exact List.eq_nil_iff_forall_not_mem.2 fun u member => searched u member
  | found u returns =>
    rw [answer] at searched
    obtain ⟨before, v, after, split, refused, left, returns, accepted⟩ := searched
    obtain ⟨rfl, -⟩ := Plan.Verdict.found.inj accepted
    obtain rfl : before = [] := List.eq_nil_iff_forall_not_mem.2 fun u member => refused u member
    simp [split]

theorem searchPlan_answers {p : Plan} (tame : e.tame = true) (needed : e.needsSearch [] = true)
    (planned : Plan.ofExpr? [] true .whole e = some p) (on : ∀ p ∈ places, p.On subject)
    (returns : Nat) : (searchPlan p places returns).Answers e places := by
  induction places generalizing returns with
  | nil => simp [searchPlan, Outcome.Answers]
  | cons place places ih =>
    have here := run_found tame planned (t := .ofPlace place) (on place List.mem_cons_self)
      ⟨waitingLimit - 1, returns⟩
    simp only [searchPlan]
    cases answer : p.run (.ofPlace place) Plan.accept ⟨waitingLimit - 1, returns⟩ with
    | found u returns' =>
      rw [answer] at here
      exact Outcome.answers_here here
    | exhausted => exact needed
    | failed returns' =>
      rw [answer] at here
      -- Going on at the next place takes a return as well.
      cases returns' with
      | zero => exact needed
      | succ returns' =>
        exact (ih (fun p member => on p (List.mem_cons_of_mem _ member)) returns').later here

theorem searchExpr_answers (tame : e.tame = true) (direct : e.needsSearch [] = false)
    (on : ∀ p ∈ places, p.On subject) : (searchExpr e places).Answers e places := by
  induction places with
  | nil => simp [searchExpr, Outcome.Answers]
  | cons place places ih =>
    have here := e.head?_ends tame direct (t := .ofPlace place) (on place List.mem_cons_self)
    simp only [searchExpr, here]
    cases first : (e.ways (.ofPlace place)).head? with
    | some u => exact Outcome.answers_here first
    | none =>
      exact (ih fun p member => on p (List.mem_cons_of_mem _ member)).later
        (List.head?_eq_none_iff.1 first)

/-- A search answers with the first way from the first place that has any, or gives up. -/
theorem search_answers {program : Program} {groups : Nat} (tame : e.tame = true)
    (compiled : ofNotated? ⟨e, groups, []⟩ = some program) (path : Text) :
    (program.search path).Answers e (Place.start path).onward := by
  have on := Place.start_onward_on path
  simp only [ofNotated?] at compiled
  split at compiled
  · rename_i needed
    obtain ⟨p, planned, rfl⟩ := Option.map_eq_some_iff.1 compiled
    exact searchPlan_answers tame needed planned on returnLimit
  · rename_i direct
    split at compiled
    · obtain rfl := Option.some.inj compiled
      exact searchExpr_answers tame (by simpa using direct) on
    · cases compiled

/-- An expression that has ways from the start only is found there or nowhere. -/
theorem find?_anchored {program : Program} {groups : Nat} (tame : e.tame = true)
    (compiled : ofNotated? ⟨e, groups, []⟩ = some program)
    (anchored : ∀ t : Thread, t.place.before ≠ [] → e.ways t = []) {path : Text}
    (finished : program.search path ≠ .gaveUp) :
    program.find? path =
      (e.ways (.ofPlace (.start path))).head?.map fun t => ⟨.start path, t⟩ := by
  have answers := search_answers tame compiled path
  obtain ⟨places, onward, moved⟩ := Place.start_onward path
  rw [onward] at answers
  simp only [find?]
  cases answer : program.search path with
  | gaveUp => exact absurd answer finished
  | nothing =>
    rw [answer] at answers
    simp [Outcome.found?, answers (.start path) List.mem_cons_self]
  | found f =>
    rw [answer] at answers
    obtain ⟨earlier, later, split, none, first⟩ := answers
    cases earlier with
    | nil =>
      obtain ⟨start, rfl⟩ := List.cons.inj split
      rw [← start] at first
      obtain ⟨place, thread⟩ := f
      obtain rfl : Place.start path = place := start
      simp [Outcome.found?, first]
    | cons p earlier =>
      -- A later place has something before it, so no way starts there.
      obtain ⟨-, rfl⟩ := List.cons.inj split
      have behind : f.start.before ≠ [] := moved f.start (by simp)
      rw [anchored (.ofPlace f.start) behind] at first
      cases first

theorem searchExpr_ne_gaveUp (e : Expr) (places : List Place) : searchExpr e places ≠ .gaveUp := by
  induction places with
  | nil => simp [searchExpr]
  | cons place places ih =>
    rw [searchExpr]
    split
    · simp
    · exact ih

/-- An expression that needs no search is always searched to the end. -/
theorem search_ne_gaveUp {program : Program} {groups : Nat} (direct : e.needsSearch [] = false)
    (compiled : ofNotated? ⟨e, groups, []⟩ = some program) (path : Text) :
    program.search path ≠ .gaveUp := by
  simp only [ofNotated?, direct, Bool.false_eq_true, if_false, Option.ite_none_right_eq_some,
    Option.some.injEq] at compiled
  obtain ⟨-, rfl⟩ := compiled
  exact searchExpr_ne_gaveUp e _

end Program

end RoutePattern
