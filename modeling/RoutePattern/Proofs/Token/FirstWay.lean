import RoutePattern.Proofs.Token.Apart

/-! # The first way through a path that was laid out

The first way through the layout of what some parameters hold gives each of them just this
(`Token.first_way`). `Token.Leads` says so of one thread, and has one lemma for each step over a token:
in front of a parameter that is given a value, only the way past this value goes on, and in front of one
that is not, what is left is too short for a value.
-/

namespace RoutePattern

open RoutePattern.Expr (waysThrough)

/-! ## Choosing a way -/

theorem head?_flatMap_of_only {α β : Type} {ways : List α} {further : α → List β} {a : α}
    (member : a ∈ ways) (only : ∀ b ∈ ways, further b ≠ [] → b = a) :
    (ways.flatMap further).head? = (further a).head? := by
  induction ways with
  | nil => cases member
  | cons b ways ih =>
    rw [List.flatMap_cons]
    by_cases stuck : further b = []
    · rw [stuck, List.nil_append]
      rcases List.mem_cons.1 member with rfl | later
      · have none : ways.flatMap further = [] := by
          refine List.flatMap_eq_nil_iff.2 fun b later => by_contra fun more => more ?_
          rw [only b (List.mem_cons_of_mem _ later) more, stuck]
        rw [none, stuck]
      · exact ih later fun c listed => only c (List.mem_cons_of_mem b listed)
    · obtain rfl := only b List.mem_cons_self stuck
      exact List.head?_append_of_ne_nil (further b) stuck

/-! ## Room -/

section Room

variable {o : Options} {groups : Nat} {k : Key} {t u : Thread} {es : List Expr} {subject : Text}

/-- A way takes the least number of characters that its parts take. -/
theorem room_of_way (on : t.place.On subject) (way : u ∈ waysThrough es t) :
    (es.map (·.minLength)).sum ≤ t.place.after.length := by
  have index := Expr.ways_index (e := Expr.ofParts es) (by rwa [Expr.ways_ofParts])
  have on' := Expr.waysThrough_on on way
  have here := on.length
  have there := on'.length
  rw [minLength_ofParts] at index
  simp only [Thread.index] at index
  omega

theorem minLength_holdExprs (o : Options) (groups : Nat) (k : Key) :
    0 < ((k.holdExprs o groups).map (·.minLength)).sum := by
  have value : 0 < (Expr.group (groups + 1)
      (if k.repeats then k.runExpr o else o.segmentExpr)).minLength := by
    split
    · rw [Key.minLength_group_run]
      exact Nat.one_pos
    · exact Nat.one_pos
  rw [List.sum_pos_iff_exists_pos_nat]
  exact ⟨_, List.mem_map_of_mem (by simp [Key.holdExprs]), value⟩

/-- The parts of tokens take at least their texts. -/
theorem minLength_exprs (asWritten : o.encode = .identity) (groups : Nat) (ts : List Token) :
    (Token.layout ts []).length ≤ ((Token.exprs o groups ts).map (·.minLength)).sum := by
  induction ts generalizing groups with
  | nil => exact Nat.zero_le _
  | cons token ts ih =>
    cases token with
    | text s =>
      have later := ih groups
      have here : ((o.textExprs s).map (·.minLength)).sum = s.length := by
        simp [Options.textExprs, asWritten, Codec.encode, Function.comp_def, Expr.minLength]
      rw [Token.layout, Token.exprs, List.length_append, List.map_append, List.sum_append, here]
      omega
    | param k =>
      have later := ih (k.groupsBehind groups)
      rw [Token.layout, Token.exprs, List.map_append, List.sum_append]
      omega

end Room

/-! ## The first way -/

section FirstWay

variable {o : Options} {groups : Nat} {k : Key} {t u : Thread} {ts : List Token} {raw rest : Text}
  {subject : Text}

theorem skip_mem_ways (asWritten : o.encode = .identity) {s : Text}
    (after : t.place.after = s ++ rest) : t.skip s ∈ waysThrough (o.textExprs s) t :=
  (mem_ways_textExprs asWritten).2 ⟨s, o.mem_spelling_self s, ⟨rest, after.symm⟩, rfl⟩

/-- What stands for a text is as long as the text, so it is the text itself that is passed. -/
theorem eq_skip_of_way (asWritten : o.encode = .identity) {s : Text}
    (after : t.place.after = s ++ rest) (way : u ∈ waysThrough (o.textExprs s) t) : u = t.skip s := by
  obtain ⟨m, spelled, ⟨z, whole⟩, rfl⟩ := (mem_ways_textExprs asWritten).1 way
  rw [after] at whole
  obtain ⟨rfl, -⟩ := List.append_inj whole spelled.length_eq.symm
  rfl

theorem hold_mem_ways (asWritten : o.encode = .identity) (groups : Nat) (trail : k.trail = [])
    (held : raw ∈ k.runs o) (ahead : k.lead ++ raw ++ [] <+: t.place.after) :
    t.hold (groups + 1) k.lead raw [] ∈ waysThrough (k.holdExprs o groups) t := by
  refine (Key.mem_ways_holdExprs asWritten).2
    ⟨k.lead, o.mem_spelling_self k.lead, raw, held, [], ?_, ahead, rfl⟩
  rw [trail]
  exact o.mem_spelling_self []

/-- Tokens whose parameters have no values left. -/
theorem holds_exhausted (asWritten : o.encode = .identity) (on : t.place.On subject)
    (after : t.place.after = Token.layout ts []) (groups : Nat) (k : Key) (es : List Expr) :
    (waysThrough (k.holdExprs o groups) t).flatMap
      (waysThrough (Token.exprs o (groups + 1) ts ++ es)) = [] := by
  refine List.eq_nil_iff_forall_not_mem.2 fun u way => ?_
  rw [← Expr.waysThrough_append] at way
  have room := room_of_way on way
  have taken := minLength_holdExprs o groups k
  have texts := minLength_exprs asWritten (groups + 1) ts
  rw [List.map_append, List.sum_append, List.map_append, List.sum_append, after] at room
  omega

/-- Of the ways past a parameter in front of its value, only the one past this value goes on. -/
theorem eq_hold_of_way (asWritten : o.encode = .identity) (last : o.endsWith = [])
    (capturing : Token.Capturing (.param k :: ts)) (apart : Token.Apart o (.param k :: ts))
    (held : raw ∈ k.runs o) (opens : ∀ d ∈ rest.head?, o.delimits d)
    (finished : ts = [] → rest = [])
    (after : t.place.after = k.lead ++ raw ++ rest)
    (way : u ∈ waysThrough (k.holdExprs o groups) t)
    (further : waysThrough (Token.exprs o (groups + 1) ts ++ o.wholeEndingExprs) u ≠ []) :
    u = t.hold (groups + 1) k.lead raw [] := by
  have trail : k.trail = [] := apart.trail k (by simp [Token.keys_param capturing.head])
  obtain ⟨l, spelled, v, member, r, spelled', ahead, rfl⟩ :=
    (Key.mem_ways_holdExprs asWritten).1 way
  rw [trail, o.spelling_nil, Language.mem_one] at spelled'
  obtain rfl := spelled'
  obtain ⟨z, whole⟩ := ahead
  rw [List.append_nil, after, List.append_assoc, List.append_assoc] at whole
  obtain ⟨rfl, behind⟩ := List.append_inj whole spelled.length_eq.symm
  have ahead : v <+: raw ++ rest := ⟨z, behind⟩
  have left : (t.hold (groups + 1) k.lead v []).place.after = (raw ++ rest).drop v.length := by
    rw [Thread.hold_place, Place.beyond_after, after, List.append_nil, List.append_assoc,
      List.length_append, ← List.drop_drop, List.drop_left]
  -- It is left to compare what the way holds with the value.
  suffices same : v = raw by rw [same]
  cases repeats : k.repeats with
  | false =>
    simp only [Key.runs, repeats, Bool.false_eq_true, if_false] at member held
    rcases Options.values_apart member held opens ahead with same | ⟨d, rest', remains, inside⟩
    · exact same
    · -- A shorter value leaves a character that nothing behind it can take.
      have next := fun next listed => (apart.next next listed).2
      exact absurd (Token.blocked asWritten last capturing.tail apart.tail next (left.trans remains)
        inside) further
  | true =>
    -- Nothing follows a run, and its last character cannot be left over.
    obtain rfl : ts = [] := by
      cases ts with
      | nil => rfl
      | cons next ts =>
        have once := (apart.next next rfl).1
        rw [repeats] at once
        cases once
    obtain rfl := finished rfl
    rw [List.append_nil] at ahead left
    obtain ⟨x, rfl⟩ := ahead
    rw [List.drop_left] at left
    obtain ⟨w, way'⟩ := List.exists_mem_of_ne_nil _ further
    rcases (Options.exists_last_iff last).1 ⟨w, way'⟩ with remains | ⟨-, c, remains, delimiter⟩
    · rw [← left, remains, List.append_nil]
    · obtain ⟨init, c', same, inside⟩ := Key.last_of_mem_runs held
      rw [← left, remains] at same
      obtain ⟨-, same⟩ := List.append_inj' same rfl
      obtain rfl := List.singleton_inj.1 same
      exact absurd delimiter inside

theorem Key.aligned_nil {α : Type} (ks : List Key) :
    ∀ raw ∈ aligned ks ([] : List α), raw = none := by
  induction ks with
  | nil => simp [aligned]
  | cons k ks ih => exact List.forall_mem_cons.2 ⟨rfl, ih⟩

theorem layout_aligned_nil (ts : List Token) {raws : List (Option Text)}
    (none : ∀ raw ∈ raws, raw = none) : Token.layout ts raws = Token.layout ts [] := by
  induction ts generalizing raws with
  | nil => rfl
  | cons token ts ih =>
    cases token with
    | text s => rw [Token.layout, Token.layout, ih none]
    | param k =>
      cases raws with
      | nil => rfl
      | cons raw raws =>
        rw [List.forall_mem_cons] at none
        obtain ⟨rfl, later⟩ := none
        rw [Token.layout, Token.layout, Key.piece_none, List.nil_append, ih later]

namespace Token

/-- The thread `u` takes the first way from `t` through tokens to the end of the path. Their groups hold
`raws`, and the groups before them hold what they held. -/
structure Leads (o : Options) (groups : Nat) (ts : List Token) (t u : Thread)
    (raws : List (Option Text)) : Prop where
  first : (waysThrough (exprs o groups ts ++ o.wholeEndingExprs) t).head? = some u
  finished : u.place.after = []
  held : u.raws groups (keys ts).length = raws
  kept : ∀ n ≤ groups, u.capture? n = t.capture? n

theorem Leads.text {raws : List (Option Text)} {s : Text} (asWritten : o.encode = .identity)
    (after : t.place.after = s ++ rest) (leads : Leads o groups ts (t.skip s) u raws) :
    Leads o groups (.text s :: ts) t u raws where
  first := by
    rw [waysThrough_text, head?_flatMap_of_only (skip_mem_ways asWritten after) fun u way _ =>
      eq_skip_of_way asWritten after way]
    exact leads.first
  finished := leads.finished
  held := leads.held
  kept := leads.kept

/-- A parameter that is left out. It is tried first, but only its absence goes on. -/
theorem Leads.omitted {raws : List (Option Text)} (asWritten : o.encode = .identity)
    (captures : k.captures = true) (apart : Apart o (.param k :: ts)) (optional : k.isOptional = true)
    (on : t.place.On subject) (after : t.place.after = layout ts [])
    (fresh : t.capture? (groups + 1) = none) (leads : Leads o (groups + 1) ts t u raws) :
    Leads o groups (.param k :: ts) t u (none :: raws) where
  first := by
    rw [waysThrough_param asWritten captures (apart.isBareRun captures),
      holds_exhausted asWritten on after, optional, if_pos rfl, List.nil_append]
    exact leads.first
  finished := leads.finished
  held := by
    rw [keys_param captures, List.length_cons, Thread.raws, leads.held,
      Thread.raw?_of_capture? (leads.kept _ (Nat.le_refl _)), Thread.raw?_of_none fresh]
  kept := fun n before => leads.kept n (Nat.le_succ_of_le before)

/-- A parameter that is given a value. -/
theorem Leads.given {raws : List (Option Text)} (asWritten : o.encode = .identity)
    (last : o.endsWith = []) (capturing : Capturing (.param k :: ts))
    (apart : Apart o (.param k :: ts)) (held : raw ∈ k.runs o) (opens : ∀ d ∈ rest.head?, o.delimits d)
    (finished : ts = [] → rest = []) (after : t.place.after = k.lead ++ raw ++ rest)
    (leads : Leads o (groups + 1) ts (t.hold (groups + 1) k.lead raw []) u raws) :
    Leads o groups (.param k :: ts) t u (some raw :: raws) := by
  have captures := capturing.head
  have trail : k.trail = [] := apart.trail k (by simp [keys_param captures])
  have ahead : k.lead ++ raw ++ [] <+: t.place.after := by
    rw [List.append_nil, after]
    exact List.prefix_append _ _
  have only : ∀ u ∈ waysThrough (k.holdExprs o groups) t,
      waysThrough (exprs o (groups + 1) ts ++ o.wholeEndingExprs) u ≠ [] →
      u = t.hold (groups + 1) k.lead raw [] := fun u =>
    eq_hold_of_way asWritten last capturing apart held opens finished after
  refine ⟨?_, leads.finished, ?_, fun n before => ?_⟩
  · -- A repeated parameter is greedy and a single one is lazy, yet one way only goes on.
    rw [waysThrough_param asWritten captures (apart.isBareRun captures), List.head?_append,
      head?_flatMap_of_only (hold_mem_ways asWritten groups trail held ahead) only, leads.first]
    rfl
  · have nonempty : raw.isEmpty = false := by simpa using k.ne_nil_of_mem_runs held
    rw [keys_param captures, List.length_cons, Thread.raws, leads.held,
      Thread.raw?_of_capture? (leads.kept _ (Nat.le_refl _)), Thread.hold_raw? ahead, nonempty]
    rfl
  · rw [leads.kept n (by omega), Thread.hold_capture? (by omega)]

/-- The first way through what is laid out for the first parameters. -/
theorem first_way (asWritten : o.encode = .identity) (last : o.endsWith = [])
    (capturing : Capturing ts) (apart : Apart o ts) {raws : List Text}
    (supplies : Key.Supplies (fun k raw => raw ∈ k.runs o) (keys ts) raws)
    (on : t.place.On subject) (after : t.place.after = layout ts (Key.aligned (keys ts) raws))
    (fresh : ∀ n, groups < n → t.capture? n = none) :
    ∃ u, Leads o groups ts t u (Key.aligned (keys ts) raws) := by
  induction ts generalizing t groups raws with
  | nil =>
    have finished : t.place.after = [] := after
    refine ⟨t, ?_, finished, by cases supplies; rfl, fun _ _ => rfl⟩
    rw [exprs, List.nil_append, Options.ways_wholeEnding_at_end last finished]
    rfl
  | cons token ts ih =>
    cases token with
    | text s =>
      rw [layout] at after
      have behind : (t.skip s).place.after = layout ts (Key.aligned (keys ts) raws) := by
        rw [Thread.skip_place, Place.beyond_after, after, List.drop_left]
        rfl
      have on' := Expr.waysThrough_on on (skip_mem_ways asWritten after)
      obtain ⟨u, leads⟩ := ih capturing.tail apart.tail supplies on' behind fresh
      exact ⟨u, leads.text asWritten after⟩
    | param k =>
      have captures := capturing.head
      rw [keys_param captures] at supplies after ⊢
      cases supplies with
      | omitted optional supplies =>
        rw [Key.aligned, layout, Key.piece_none, List.nil_append] at after
        obtain ⟨u, leads⟩ := ih capturing.tail apart.tail supplies on after
          fun n behind => fresh n (Nat.lt_of_succ_lt behind)
        have texts := after.trans (layout_aligned_nil ts (Key.aligned_nil _))
        exact ⟨u, leads.omitted asWritten captures apart optional on texts
          (fresh _ (Nat.lt_succ_self groups))⟩
      | @given _ _ raw raws held supplies =>
        have trail : k.trail = [] := apart.trail k (by simp [keys_param captures])
        rw [Key.aligned, layout, Key.piece_some, trail, List.append_nil] at after
        have ahead : k.lead ++ raw ++ [] <+: t.place.after := by
          rw [List.append_nil, after]
          exact List.prefix_append _ _
        have behind : (t.hold (groups + 1) k.lead raw []).place.after =
            layout ts (Key.aligned (keys ts) raws) := by
          rw [Thread.hold_place, Place.beyond_after, after, List.append_nil, List.drop_left]
        have on' := Expr.waysThrough_on on (hold_mem_ways asWritten groups trail held ahead)
        have fresh' : ∀ n, groups + 1 < n →
            (t.hold (groups + 1) k.lead raw []).capture? n = none := by
          intro n later
          rw [Thread.hold_capture? (by omega)]
          exact fresh n (by omega)
        obtain ⟨u, leads⟩ := ih capturing.tail apart.tail supplies on' behind fresh'
        have next := fun next listed => (apart.next next listed).2
        exact ⟨u, leads.given asWritten last capturing apart held (layout_opens apart.tail next _)
          (by rintro rfl; rfl) after⟩

end Token

end FirstWay

end RoutePattern
