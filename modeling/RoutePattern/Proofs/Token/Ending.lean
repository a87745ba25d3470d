import RoutePattern.Proofs.Token.Language

/-! # The end of a match

Behind the tokens a path may have a delimiter, and what follows must be what the options let follow
(`exists_ending_iff`).
-/

namespace RoutePattern

open RoutePattern.Expr (anchor char enclosed look ofParts rep seq alt waysThrough)

namespace Options

variable {o : Options} {s : Text} {t u : Thread} {c d : Char} {r : Text}

theorem opens_nil : o.opens s [] := by
  intro d member
  cases member

theorem opens_cons : o.opens s (d :: r) ↔ ∃ c ∈ s, o.same c d := by
  simp [opens]

/-- The thread behind the next character. -/
def behind (t : Thread) (d : Char) (r : Text) : Thread :=
  { t with place := ⟨t.index + 1, d :: t.place.before, r⟩ }

theorem mem_ways_class :
    u ∈ (o.classExpr s).ways t ↔
      ∃ d r, t.place.after = d :: r ∧ (∃ c ∈ s, o.same c d) ∧ u = behind t d r := by
  simp only [classExpr, Expr.ways, Option.mem_toList, Expr.step?_eq_some, has_class]
  rfl

theorem mem_ways_textEnd : u ∈ (anchor .textEnd).ways t ↔ u = t ∧ t.place.after = [] := by
  simp only [Expr.ways, Anchor.holds, List.isEmpty_iff]
  split
  · rename_i last
    simp [last]
  · rename_i more
    simp [more]

/-- What is looked ahead for is there if the text opens with what may follow a match. -/
theorem exists_stop_iff : (∃ u, u ∈ o.stopExpr.ways t) ↔ o.opens o.endsWith t.place.after := by
  have ends : (∃ u, u ∈ (anchor .textEnd).ways t) ↔ t.place.after = [] := by
    simp [mem_ways_textEnd]
  unfold stopExpr
  split
  · -- Nothing may follow, so the path must end here.
    rename_i none
    rw [ends]
    cases t.place.after with
    | nil => simp [opens_nil]
    | cons d r => simp [opens_cons, List.isEmpty_iff.1 none]
  · have either : ∀ u, u ∈ (alt (o.classExpr o.endsWith) (anchor .textEnd)).ways t ↔
        u ∈ (o.classExpr o.endsWith).ways t ∨ u ∈ (anchor .textEnd).ways t :=
      fun u => List.mem_append
    simp only [either, exists_or, ends, mem_ways_class]
    cases t.place.after with
    | nil => simp [opens_nil]
    | cons d r => simp [opens_cons]

/-- Looking ahead leaves a thread where it is. -/
theorem mem_ways_ahead {e : Expr} (groupless : e.groups = []) :
    u ∈ (look .ahead false e).ways t ↔ u = t ∧ ∃ v, v ∈ e.ways t := by
  simp only [Expr.ways, List.mem_map, Expr.ways_eq_map_places groupless]
  constructor
  · rintro ⟨_, ⟨q, there, rfl⟩, rfl⟩
    exact ⟨rfl, _, q, there, rfl⟩
  · rintro ⟨rfl, v, q, there, rfl⟩
    exact ⟨_, ⟨q, there, rfl⟩, rfl⟩

/-- The delimiter that may follow, if the options let one follow. -/
theorem mem_waysThrough_delimiter {e : Expr} (empty : o.delimiter = [] → e.ways t = []) :
    u ∈ waysThrough (if o.strict || o.delimiter.isEmpty then [] else [rep e 0 (some 1) true]) t ↔
      u = t ∨ o.strict = false ∧ u ∈ e.ways t := by
  cases strict : o.strict with
  | true => simp [waysThrough]
  | false =>
    simp only [Bool.false_or, true_and]
    split
    · rename_i none
      simp [waysThrough, empty (List.isEmpty_iff.1 none)]
    · simp [waysThrough, Expr.ways_optional, or_comm]

/-- A delimiter that may stand in front of the last parts. Behind it the rest must be `stopped`, and in
any case it must be `closed`. -/
theorem exists_delimited_iff {e : Expr} {es : List Expr} {stopped closed : Text → Prop}
    (delimiter : ∀ u, u ∈ e.ways t ↔
      ∃ d r, t.place.after = d :: r ∧ o.delimits d ∧ stopped r ∧ u = behind t d r)
    (last : ∀ v, (∃ u, u ∈ waysThrough es v) ↔ closed v.place.after) :
    (∃ u, u ∈ waysThrough
      ((if o.strict || o.delimiter.isEmpty then [] else [rep e 0 (some 1) true]) ++ es) t) ↔
      ∃ d r, t.place.after = d ++ r ∧
        (d = [] ∨ o.strict = false ∧ ∃ c, d = [c] ∧ o.delimits c) ∧ (d ≠ [] → stopped r) ∧
        closed r := by
  have none : o.delimiter = [] → e.ways t = [] := by
    intro blank
    refine List.eq_nil_iff_forall_not_mem.2 fun u way => ?_
    obtain ⟨d, r, -, ⟨c, listed, -⟩, -⟩ := (delimiter u).1 way
    simp [blank] at listed
  simp only [Expr.waysThrough_append, List.mem_flatMap, mem_waysThrough_delimiter none]
  constructor
  · rintro ⟨u, v, first, way⟩
    have closing := (last v).1 ⟨u, way⟩
    rcases first with rfl | ⟨lenient, inside⟩
    · exact ⟨[], v.place.after, rfl, .inl rfl, by simp, closing⟩
    · obtain ⟨d, r, after, delimits, stopping, rfl⟩ := (delimiter v).1 inside
      exact ⟨[d], r, after, .inr ⟨lenient, d, rfl, delimits⟩, fun _ => stopping, closing⟩
  · rintro ⟨d, r, after, rfl | ⟨lenient, c, rfl, delimits⟩, stopping, closing⟩
    · rw [List.nil_append] at after
      obtain ⟨u, way⟩ := (last t).2 (after ▸ closing)
      exact ⟨u, t, .inl rfl, way⟩
    · obtain ⟨u, way⟩ := (last (behind t c r)).2 closing
      have inside := (delimiter (behind t c r)).2
        ⟨c, r, after, delimits, stopping (List.cons_ne_nil c []), rfl⟩
      exact ⟨u, behind t c r, .inr ⟨lenient, inside⟩, way⟩

theorem exists_wholeEnding_iff :
    (∃ u, u ∈ waysThrough o.wholeEndingExprs t) ↔
      ∃ d r, t.place.after = d ++ r ∧
        (d = [] ∨ o.strict = false ∧ ∃ c, d = [c] ∧ o.delimits c) ∧ o.opens o.endsWith r := by
  have last : ∀ v, (∃ u, u ∈ waysThrough
      [if o.endsWith.isEmpty then anchor .textEnd else look .ahead false o.stopExpr] v) ↔
      o.opens o.endsWith v.place.after := by
    intro v
    rw [Expr.waysThrough_single, ← exists_stop_iff]
    split
    · rename_i none
      rw [stopExpr, if_pos none]
    · simp only [mem_ways_ahead o.groups_stopExpr, exists_eq_left]
  have delimiter : ∀ u, u ∈ (o.classExpr o.delimiter).ways t ↔
      ∃ d r, t.place.after = d :: r ∧ o.delimits d ∧ True ∧ u = behind t d r := by
    intro u
    simp only [mem_ways_class, true_and]
    rfl
  rw [wholeEndingExprs, exists_delimited_iff delimiter last]
  simp only [implies_true, true_and]

theorem opens_append {s' : Text} : o.opens (s ++ s') r ↔ o.opens s r ∨ o.opens s' r := by
  cases r with
  | nil => simp [opens_nil]
  | cons d r => simp [opens_cons, or_and_right, exists_or]

/-- The boundary behind a match of the start of a path. -/
theorem exists_boundary_iff :
    (∃ u, u ∈ waysThrough [look .ahead false
      (if o.delimiter.isEmpty then o.stopExpr
        else alt (o.classExpr o.delimiter) o.stopExpr)] t) ↔
      o.opens (o.delimiter ++ o.endsWith) t.place.after := by
  rw [Expr.waysThrough_single, opens_append]
  split
  · rename_i none
    simp only [mem_ways_ahead o.groups_stopExpr, exists_eq_left, exists_stop_iff,
      List.isEmpty_iff.1 none]
    refine ⟨.inr, ?_⟩
    rintro (nothing | opened)
    · cases after : t.place.after with
      | nil => exact opens_nil
      | cons d r => simp [after, opens_cons] at nothing
    · exact opened
  · have groupless : (alt (o.classExpr o.delimiter) o.stopExpr).groups = [] := by
      simp [Expr.groups, groups_class, groups_stopExpr]
    have either : ∀ u, u ∈ (alt (o.classExpr o.delimiter) o.stopExpr).ways t ↔
        u ∈ (o.classExpr o.delimiter).ways t ∨ u ∈ o.stopExpr.ways t := fun u => List.mem_append
    simp only [mem_ways_ahead groupless, exists_eq_left, either, exists_or, exists_stop_iff,
      mem_ways_class]
    cases t.place.after with
    | nil => simp [opens_nil]
    | cons d r => simp [opens_cons]

theorem exists_partialEnding_iff {delimited : Bool} :
    (∃ u, u ∈ waysThrough (o.partialEndingExprs delimited) t) ↔
      ∃ d r, t.place.after = d ++ r ∧
        (d = [] ∨ o.strict = false ∧ ∃ c, d = [c] ∧ o.delimits c) ∧
        (d ≠ [] → o.opens o.endsWith r) ∧
        (delimited = false → o.opens (o.delimiter ++ o.endsWith) r) := by
  have last : ∀ v, (∃ u, u ∈ waysThrough (if delimited then [] else [look .ahead false
      (if o.delimiter.isEmpty then o.stopExpr else alt (o.classExpr o.delimiter) o.stopExpr)]) v) ↔
      (delimited = false → o.opens (o.delimiter ++ o.endsWith) v.place.after) := by
    intro v
    cases delimited with
    | true => simp [waysThrough]
    | false => simpa using exists_boundary_iff
  have delimiter : ∀ u, u ∈ (enclosed (seq (o.classExpr o.delimiter)
      (look .ahead false o.stopExpr))).ways t ↔
      ∃ d r, t.place.after = d :: r ∧ o.delimits d ∧ o.opens o.endsWith r ∧ u = behind t d r := by
    intro u
    have shape : (enclosed (seq (o.classExpr o.delimiter) (look .ahead false o.stopExpr))).ways t =
        ((o.classExpr o.delimiter).ways t).flatMap (look .ahead false o.stopExpr).ways := rfl
    simp only [shape, List.mem_flatMap, mem_ways_class, mem_ways_ahead o.groups_stopExpr,
      exists_stop_iff]
    constructor
    · rintro ⟨_, ⟨d, r, after, delimits, rfl⟩, rfl, opened⟩
      exact ⟨d, r, after, delimits, opened, rfl⟩
    · rintro ⟨d, r, after, delimits, opened, rfl⟩
      exact ⟨_, ⟨d, r, after, delimits, rfl⟩, rfl, opened⟩
  exact exists_delimited_iff delimiter last

/-- There is a way through the ending where the rest of the path may be left. -/
theorem exists_ending_iff (ts : List Token) :
    (∃ u, u ∈ waysThrough (o.endingExprs ts) t) ↔
      ∃ d r, t.place.after = d ++ r ∧ o.closes ts d r := by
  unfold endingExprs closes
  split
  · exact exists_wholeEnding_iff
  · exact exists_partialEnding_iff

end Options

end RoutePattern
