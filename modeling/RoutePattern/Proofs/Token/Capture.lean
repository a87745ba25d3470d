import RoutePattern.Proofs.Token.Language

/-! # What the parameters of a match hold

A way through a parameter passes its texts and a value or a run between them, which its group then
holds (`mem_ways_holdExprs`), or leaves the parameter out if it is optional.
-/

namespace RoutePattern

open RoutePattern.Expr (ofParts enclosed group rep waysThrough)

/-! ## Places and threads behind a text -/

namespace Place

/-- The place behind a text that stands ahead. -/
def beyond (p : Place) (m : Text) : Place :=
  ⟨p.index + m.length, m.reverse ++ p.before, p.after.drop m.length⟩

variable {p q : Place} {m : Text}

theorem pass?_eq_some_iff : p.pass? m = some q ↔ m <+: p.after ∧ q = p.beyond m := by
  rw [pass?_eq_some]
  constructor
  · rintro ⟨rest, after, rfl⟩
    exact ⟨⟨rest, after.symm⟩, by simp [beyond, after]⟩
  · rintro ⟨⟨rest, after⟩, rfl⟩
    exact ⟨rest, after.symm, by simp [beyond, ← after]⟩

@[simp] theorem beyond_index (p : Place) (m : Text) : (p.beyond m).index = p.index + m.length := rfl

@[simp] theorem beyond_after (p : Place) (m : Text) : (p.beyond m).after = p.after.drop m.length := rfl

theorem beyond_beyond (p : Place) (m m' : Text) : (p.beyond m).beyond m' = p.beyond (m ++ m') := by
  simp [beyond, Nat.add_assoc, List.drop_drop]

theorem textUpTo_beyond (ahead : m <+: p.after) : p.textUpTo (p.index + m.length) = m := by
  rw [textUpTo, Nat.add_sub_cancel_left]
  exact List.prefix_iff_eq_take.1 ahead |>.symm

/-- A text ahead of which another one stands. -/
theorem append_prefix_after {m' : Text} :
    m ++ m' <+: p.after ↔ m <+: p.after ∧ m' <+: (p.beyond m).after := by
  constructor
  · rintro ⟨rest, after⟩
    refine ⟨⟨m' ++ rest, by rw [← after, List.append_assoc]⟩, rest, ?_⟩
    rw [beyond_after, ← after, List.append_assoc, List.drop_left]
  · rintro ⟨⟨rest, after⟩, rest', after'⟩
    refine ⟨rest', ?_⟩
    rw [beyond_after, ← after, List.drop_left] at after'
    rw [List.append_assoc, after', after]

end Place

namespace Thread

/-- The thread behind a text that no group takes. -/
def skip (t : Thread) (m : Text) : Thread := { t with place := t.place.beyond m }

/-- The thread behind `lead`, a text that the group `n` takes, and `trail`. -/
def hold (t : Thread) (n : Nat) (lead raw trail : Text) : Thread :=
  ((t.skip lead).captured n (t.place.beyond (lead ++ raw))).skip trail

/-- What the group holds, if that is not empty. -/
def raw? (t : Thread) (n : Nat) : Option Text := (t.text? n).filter (!·.isEmpty)

variable {t : Thread} {n : Nat} {lead raw trail : Text}

@[simp] theorem skip_place (t : Thread) (m : Text) : (t.skip m).place = t.place.beyond m := rfl

@[simp] theorem hold_place (t : Thread) (n : Nat) (lead raw trail : Text) :
    (t.hold n lead raw trail).place = t.place.beyond (lead ++ raw ++ trail) :=
  t.place.beyond_beyond (lead ++ raw) trail

theorem hold_text? (ahead : lead ++ raw ++ trail <+: t.place.after) :
    (t.hold n lead raw trail).text? n = some raw := by
  have inside := (Place.append_prefix_after.1 (Place.append_prefix_after.1 ahead).1).2
  have held : (t.hold n lead raw trail).text? n =
      some ((t.place.beyond lead).textUpTo (t.place.beyond (lead ++ raw)).index) :=
    captured_text? (t.skip lead) n _
  have far : (t.place.beyond (lead ++ raw)).index = (t.place.beyond lead).index + raw.length := by
    simp [Nat.add_assoc]
  rw [held, far, Place.textUpTo_beyond inside]

theorem hold_capture? {m : Nat} (other : m ≠ n) (t : Thread) (lead raw trail : Text) :
    (t.hold n lead raw trail).capture? m = t.capture? m :=
  captured_capture? other (t.skip lead) _

theorem raw?_of_capture? {t u : Thread} (same : u.capture? n = t.capture? n) :
    u.raw? n = t.raw? n := by
  rw [raw?, raw?, text?, text?, same]

theorem raw?_of_none (none : t.capture? n = none) : t.raw? n = .none := by
  rw [raw?, text?, none]
  rfl

theorem ne_nil_of_raw? (held : t.raw? n = some raw) : raw ≠ [] := by
  rw [raw?, Option.filter_eq_some_iff] at held
  simpa using held.2

theorem raw?_eq_none_iff : t.raw? n = none ↔ t.text? n = none ∨ t.text? n = some [] := by
  rw [raw?]
  cases t.text? n with
  | none => simp
  | some raw => simp [Option.filter_some]

theorem hold_raw? (ahead : lead ++ raw ++ trail <+: t.place.after) :
    (t.hold n lead raw trail).raw? n = if raw.isEmpty then none else some raw := by
  rw [raw?, hold_text? ahead]
  cases raw <;> rfl

end Thread

/-! ## Ways through plain parts -/

section Ways

variable {o : Options} {t u : Thread} {n : Nat}

theorem groupless_ofParts {es : List Expr} (groupless : ∀ e ∈ es, e.groups = []) :
    (ofParts es).groups = [] := by
  rw [Expr.groups_ofParts]
  exact List.flatMap_eq_nil_iff.2 groupless

theorem mem_waysThrough_plain {es : List Expr} (plain : ∀ e ∈ es, e.isPlain = true)
    (groupless : ∀ e ∈ es, e.groups = []) :
    u ∈ waysThrough es t ↔
      ∃ m ∈ (es.map (·.language)).prod, m <+: t.place.after ∧ u = t.skip m := by
  have whole := isPlain_ofParts plain
  simp only [Expr.isPlain, Bool.and_eq_true] at whole
  rw [← Expr.ways_ofParts, Expr.ways_eq_map_places (groupless_ofParts groupless), List.mem_map]
  simp only [Expr.mem_places_iff whole.1 whole.2, language_ofParts, Place.pass?_eq_some_iff]
  constructor
  · rintro ⟨q, ⟨m, member, ahead, rfl⟩, rfl⟩
    exact ⟨m, member, ahead, rfl⟩
  · rintro ⟨m, member, ahead, rfl⟩
    exact ⟨_, ⟨m, member, ahead, rfl⟩, rfl⟩

theorem Options.groups_textExprs (o : Options) (s : Text) : ∀ e ∈ o.textExprs s, e.groups = [] :=
  forall_mem_textExprs (fun _ => rfl) o s

theorem mem_ways_textExprs (asWritten : o.encode = .identity) {s : Text} :
    u ∈ waysThrough (o.textExprs s) t ↔
      ∃ m ∈ o.spelling s, m <+: t.place.after ∧ u = t.skip m := by
  rw [mem_waysThrough_plain (o.isPlain_textExprs s) (o.groups_textExprs s), o.language_textExprs,
    asWritten]
  rfl

theorem mem_ways_group {e : Expr} (plain : e.isPlain = true) (groupless : e.groups = []) :
    u ∈ waysThrough [group n e] t ↔
      ∃ v ∈ e.language, v <+: t.place.after ∧ u = t.hold n [] v [] := by
  simp only [Expr.isPlain, Bool.and_eq_true] at plain
  rw [Expr.waysThrough_single, Expr.ways_group groupless, List.mem_map]
  simp only [Expr.mem_places_iff plain.1 plain.2, Place.pass?_eq_some_iff]
  constructor
  · rintro ⟨q, ⟨v, member, ahead, rfl⟩, rfl⟩
    exact ⟨v, member, ahead, rfl⟩
  · rintro ⟨v, member, ahead, rfl⟩
    exact ⟨_, ⟨v, member, ahead, rfl⟩, rfl⟩

/-- A way through a group between two texts. -/
theorem mem_ways_between (asWritten : o.encode = .identity) {e : Expr} (plain : e.isPlain = true)
    (groupless : e.groups = []) {lead trail : Text} :
    u ∈ waysThrough (o.textExprs lead ++ [group n e] ++ o.textExprs trail) t ↔
      ∃ l ∈ o.spelling lead, ∃ v ∈ e.language, ∃ r ∈ o.spelling trail,
        l ++ v ++ r <+: t.place.after ∧ u = t.hold n l v r := by
  simp only [Expr.waysThrough_append, List.mem_flatMap, mem_ways_textExprs asWritten,
    mem_ways_group plain groupless]
  constructor
  · rintro ⟨-, ⟨-, ⟨l, spelled, ahead, rfl⟩, v, member, ahead', rfl⟩, r, spelled', ahead'', rfl⟩
    refine ⟨l, spelled, v, member, r, spelled', ?_, ?_⟩
    · rw [Place.append_prefix_after, Place.append_prefix_after]
      refine ⟨⟨ahead, ahead'⟩, ?_⟩
      simpa [Place.beyond_beyond] using ahead''
    · simp [Thread.hold, Thread.skip, Place.beyond_beyond]
  · rintro ⟨l, spelled, v, member, r, spelled', ahead, rfl⟩
    rw [Place.append_prefix_after, Place.append_prefix_after] at ahead
    refine ⟨_, ⟨_, ⟨l, spelled, ahead.1.1, rfl⟩, v, member, ahead.1.2, rfl⟩, r, spelled', ?_, ?_⟩
    · simpa [Place.beyond_beyond] using ahead.2
    · simp [Thread.hold, Thread.skip, Place.beyond_beyond]

end Ways

/-! ## Ways through a parameter -/

namespace Key

variable {o : Options} {groups : Nat} {k : Key} {t u : Thread}

/-- What the group of a parameter may hold where the parameter occurs. -/
def runs (o : Options) (k : Key) : Language Char :=
  if k.repeats then o.values * KStar.kstar (o.spelling k.trail * o.spelling k.lead * o.values)
  else o.values

/-- The parts of a parameter that captures, without its modifier. -/
def holdExprs (o : Options) (groups : Nat) (k : Key) : List Expr :=
  o.textExprs k.lead ++ [group (groups + 1) (if k.repeats then k.runExpr o else o.segmentExpr)] ++
    o.textExprs k.trail

/-- A repeated parameter without texts around it. Its group holds all that the modifier allows. -/
def isBareRun (k : Key) : Bool := k.repeats && k.lead.isEmpty && k.trail.isEmpty

theorem groups_runExpr (o : Options) (k : Key) : (k.runExpr o).groups = [] := by
  have inner : ∀ e ∈ o.textExprs k.trail ++ o.textExprs k.lead ++ [enclosed o.segmentExpr],
      e.groups = [] := by
    rw [List.forall_mem_append, List.forall_mem_append, List.forall_mem_singleton]
    exact ⟨⟨o.groups_textExprs k.trail, o.groups_textExprs k.lead⟩, rfl⟩
  have value : o.segmentExpr.groups = [] := rfl
  simp only [runExpr, Expr.groups, value, groupless_ofParts inner, List.append_nil]

theorem isPlain_runExpr (o : Options) (k : Key) : (k.runExpr o).isPlain = true := by
  have grouped := isPlain_group_run o 0 k
  simp only [Expr.isPlain, Expr.tame, Bool.and_eq_true] at grouped ⊢
  exact ⟨grouped.1.1, grouped.2⟩

/-- The ways through a parameter that occurs. -/
theorem mem_ways_holdExprs (asWritten : o.encode = .identity) :
    u ∈ waysThrough (k.holdExprs o groups) t ↔
      ∃ l ∈ o.spelling k.lead, ∃ v ∈ k.runs o, ∃ r ∈ o.spelling k.trail,
        l ++ v ++ r <+: t.place.after ∧ u = t.hold (groups + 1) l v r := by
  unfold holdExprs runs
  cases k.repeats with
  | true =>
    rw [if_pos rfl, if_pos rfl, mem_ways_between asWritten (k.isPlain_runExpr o) (k.groups_runExpr o),
      k.language_runExpr, asWritten]
    rfl
  | false =>
    rw [if_neg (by simp), if_neg (by simp), mem_ways_between asWritten rfl rfl, o.language_segment]

theorem isEmpty_textExprs (asWritten : o.encode = .identity) (s : Text) :
    (o.textExprs s).isEmpty = s.isEmpty := by
  rw [Options.textExprs, asWritten]
  cases s <;> rfl

/-- Whether an optional part is left out is asked after it was tried. -/
theorem ways_applyTo {e : Expr} {m : Option Modifier} (single : m.any (·.mayRepeat) = false) :
    (Modifier.applyTo m e).ways t = e.ways t ++ if m.any (·.mayBeAbsent) then [t] else [] := by
  cases m with
  | none => simp [Modifier.applyTo]
  | some m =>
    cases m with
    | optional => exact Expr.ways_optional e t
    | zeroOrMore | oneOrMore => cases single

/-- The ways through a parameter: those where it occurs, and then the one that leaves it out. -/
theorem ways_exprs (asWritten : o.encode = .identity) (captures : k.captures = true)
    (divided : k.isBareRun = false) :
    waysThrough (k.exprs o groups) t =
      waysThrough (k.holdExprs o groups) t ++ if k.isOptional then [t] else [] := by
  have fragment : k.fragment.isEmpty = false := by simpa [Key.captures] using captures
  unfold exprs holdExprs
  simp only [fragment, Bool.false_eq_true, if_false, isEmpty_textExprs asWritten]
  cases repeats : k.repeats with
  | false =>
    have whole : ∀ e, (Modifier.applyTo k.modifier e).ways t =
        e.ways t ++ if k.isOptional then [t] else [] := fun e => ways_applyTo repeats
    simp only [Bool.false_eq_true, if_false]
    split
    · -- Without texts the modifier stands behind the capturing group itself.
      rename_i bare
      simp only [Bool.and_eq_true, List.isEmpty_iff] at bare
      rw [Expr.waysThrough_single, whole, bare.1, bare.2]
      simp only [Options.textExprs, asWritten, Codec.encode, List.map_nil, List.nil_append,
        List.append_nil, Expr.waysThrough_single]
    · rw [Expr.waysThrough_single, whole, Expr.ways, Expr.ways_ofParts]
  | true =>
    -- The run stands for the repetition, so only its absence is left to the modifier.
    have texts : (k.lead.isEmpty && k.trail.isEmpty) = false := by
      simpa [isBareRun, repeats] using divided
    have modifier : (if k.isOptional then some Modifier.optional else none).any (·.mayRepeat) =
        false := by
      split <;> rfl
    have optional : (if k.isOptional then some Modifier.optional else none).any (·.mayBeAbsent) =
        k.isOptional := by
      cases k.isOptional <;> rfl
    simp only [texts, Bool.false_eq_true, if_false, if_true]
    rw [Expr.waysThrough_single, ways_applyTo modifier, optional, Expr.ways, Expr.ways_ofParts]

/-- The ways through a repeated parameter without texts around it. -/
theorem mem_ways_bareRun (captures : k.captures = true) (asWritten : o.encode = .identity)
    (bare : k.isBareRun = true) :
    u ∈ waysThrough (k.exprs o groups) t ↔
      ∃ v, (v ∈ k.runs o ∨ k.isOptional = true ∧ v = []) ∧ v <+: t.place.after ∧
        u = t.hold (groups + 1) [] v [] := by
  have fragment : k.fragment.isEmpty = false := by simpa [Key.captures] using captures
  simp only [isBareRun, Bool.and_eq_true] at bare
  obtain ⟨⟨repeats, lead⟩, trail⟩ := bare
  have shape : k.exprs o groups =
      [group (groups + 1) (Modifier.applyTo k.modifier (enclosed o.segmentExpr))] := by
    simp [exprs, fragment, isEmpty_textExprs asWritten, lead, trail, repeats]
  have plain : (Modifier.applyTo k.modifier (enclosed o.segmentExpr)).isPlain = true :=
    isPlain_applyTo rfl fun _ => Nat.one_pos
  have groupless : (Modifier.applyTo k.modifier (enclosed o.segmentExpr)).groups = [] := by
    cases k.modifier <;> rfl
  have run : k.runs o = o.values * KStar.kstar (1 * 1 * o.values) := by
    simp only [runs, repeats, if_true, List.isEmpty_iff.1 lead, List.isEmpty_iff.1 trail,
      o.spelling_nil]
  -- The group surrounds the repetition, so an empty text is held where the run is absent.
  have several := times_run repeats 1 o.values 1
  simp only [one_mul, mul_one] at several run
  rw [shape, mem_ways_group plain groupless, language_applyTo, Expr.language, o.language_segment,
    ← several, run]
  refine exists_congr fun v => and_congr_left fun _ => ?_
  cases k.isOptional with
  | true => simp only [if_true, Modifier.mem_times_optional, true_and]
  | false => simp only [Bool.false_eq_true, if_false, Modifier.times_none, false_and, or_false]

end Key

end RoutePattern
