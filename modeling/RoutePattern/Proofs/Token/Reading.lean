import RoutePattern.Proofs.Token.Expression

/-! # How the notation of a token list is read

The notation is read as the parts of the tokens, unless a group without any text has a modifier
(`Token.read?_withCase`).
-/

namespace RoutePattern

open RoutePattern.Expr (alt anchor enclosed group look ofParts rep)
open Expr.Reader (Counts Reads ReadsRest)

variable {o : Options} {size depth groups : Nat} {k : Key}

theorem Options.reads_literal (o : Options) (t : Text) :
    Reads size o.relaxed depth groups (o.literal t) (o.textExprs t) groups := Reads.literal _

theorem Options.literal_isEmpty (o : Options) (t : Text) :
    (o.literal t).isEmpty = (o.textExprs t).isEmpty := by
  unfold Options.literal Options.textExprs Text.Escape.literal
  cases o.encode.encode t with
  | nil => rfl
  | cons c t =>
    rw [Text.Escape.escapeBy_cons]
    split <;> rfl

theorem Options.reads_segment (o : Options) :
    Reads size o.relaxed depth groups o.segment [o.segmentExpr] groups := Reads.segment _

/-- The counts of a modifier, or none. -/
theorem counts_modifiers (relaxed : Bool) (m : Option Modifier) :
    Counts relaxed (m.toList.map (·.char)) (m.map fun m => ⟨m.low, m.high, true, false⟩) := by
  cases m with
  | none => exact Expr.Reader.counts_nil
  | some m => exact Expr.Reader.counts_modifier m

theorem applyRepetition_modifiers {e : Expr} (repeatable : Expr.Reader.repeatable e = true)
    (m : Option Modifier) :
    Expr.Reader.applyRepetition e (m.map fun m => ⟨m.low, m.high, true, false⟩) =
      some (Modifier.applyTo m e) := by
  cases m with
  | none => rfl
  | some m => simp [Expr.Reader.applyRepetition, repeatable, Modifier.applyTo]

theorem repeatable_ofParts {es : List Expr} (nonempty : es ≠ [])
    (each : ∀ e ∈ es, Expr.Reader.repeatable e = true) :
    Expr.Reader.repeatable (ofParts es) = true := by
  cases es with
  | nil => exact absurd rfl nonempty
  | cons e es =>
    cases es with
    | nil => exact each e List.mem_cons_self
    | cons e' es => rfl

theorem repeatable_textExprs (o : Options) (t : Text) :
    ∀ e ∈ o.textExprs t, Expr.Reader.repeatable e = true :=
  Options.forall_mem_textExprs (fun _ => rfl) o t

/-- A group that captures nothing, with or without a modifier. -/
theorem reads_enclosed {t : Text} {es : List Expr} {groups' : Nat} {relaxed : Bool}
    (shallow : depth + 1 < Expr.Reader.nestingLimit)
    (inside : Reads size relaxed (depth + 1) groups t es groups')
    (repeatable : Expr.Reader.repeatable (ofParts es) = true) (m : Option Modifier) :
    Reads size relaxed depth groups (Text.enclosed t ++ m.toList.map (·.char))
      [Modifier.applyTo m (enclosed (ofParts es))] groups' := by
  have nonempty : ofParts es ≠ .empty := by
    intro empty
    rw [empty] at repeatable
    cases repeatable
  have wrapped : Expr.Reader.wrap (Expr.Reader.plain size relaxed groups) (ofParts es)
      (.scoped { relaxed }) = enclosed (ofParts es) := by
    simp [Expr.Reader.wrap, nonempty]
  have applied := applyRepetition_modifiers (e := enclosed (ofParts es)) repeatable m
  have reads := Reads.scoped shallow inside (counts_modifiers relaxed m) (by rw [wrapped, applied])
  have added : Expr.Reader.addPart (Modifier.applyTo m (enclosed (ofParts es))) [] =
      [Modifier.applyTo m (enclosed (ofParts es))] := by
    cases m <;> rfl
  rwa [added] at reads

/-- A group that captures, with or without a modifier. -/
theorem reads_captured {t : Text} {es : List Expr} {groups' : Nat} {relaxed : Bool}
    (shallow : depth + 1 < Expr.Reader.nestingLimit)
    (inside : Reads size relaxed (depth + 1) (groups + 1) t es groups') (m : Option Modifier) :
    Reads size relaxed depth groups (Text.captured t ++ m.toList.map (·.char))
      [Modifier.applyTo m (group (groups + 1) (ofParts es))] groups' := by
  have applied := applyRepetition_modifiers (e := group (groups + 1) (ofParts es)) rfl m
  have reads := Reads.capture shallow inside (counts_modifiers relaxed m) applied
  have added : Expr.Reader.addPart (Modifier.applyTo m (group (groups + 1) (ofParts es))) [] =
      [Modifier.applyTo m (group (groups + 1) (ofParts es))] := by
    cases m <;> rfl
  rwa [added] at reads

namespace Key

theorem reads_value (o : Options) (shallow : depth + 1 < Expr.Reader.nestingLimit)
    (m : Option Modifier) :
    Reads size o.relaxed depth groups (Text.enclosed o.segment ++ m.toList.map (·.char))
      [Modifier.applyTo m (enclosed o.segmentExpr)] groups :=
  reads_enclosed shallow o.reads_segment rfl m

/-- Several values, one after another. -/
theorem reads_run (o : Options) (size depth groups : Nat) (k : Key)
    (shallow : depth + 2 < Expr.Reader.nestingLimit) :
    Reads size o.relaxed depth groups
      (Text.enclosed o.segment ++
        Text.enclosed (o.literal k.trail ++ o.literal k.lead ++ Text.enclosed o.segment) ++ ['*'])
      [enclosed o.segmentExpr, rep (enclosed (ofParts (o.textExprs k.trail ++ o.textExprs k.lead ++
        [enclosed o.segmentExpr]))) 0 none true] groups := by
  have value : ∀ {depth}, depth + 1 < Expr.Reader.nestingLimit →
      Reads size o.relaxed depth groups (Text.enclosed o.segment) [enclosed o.segmentExpr]
        groups := by
    intro depth shallow
    simpa [Modifier.applyTo] using reads_value o shallow none
  have inner : Reads size o.relaxed (depth + 1) groups
      (o.literal k.trail ++ o.literal k.lead ++ Text.enclosed o.segment)
      (o.textExprs k.trail ++ o.textExprs k.lead ++ [enclosed o.segmentExpr]) groups :=
    ((o.reads_literal k.trail).append (o.reads_literal k.lead)).append (value (by omega))
  have repeatable : Expr.Reader.repeatable (ofParts (o.textExprs k.trail ++ o.textExprs k.lead ++
      [enclosed o.segmentExpr])) = true := by
    refine repeatable_ofParts (by simp) ?_
    rw [List.forall_mem_append, List.forall_mem_append, List.forall_mem_singleton]
    exact ⟨⟨repeatable_textExprs o k.trail, repeatable_textExprs o k.lead⟩, rfl⟩
  have others := reads_enclosed (by omega) inner repeatable (some .zeroOrMore)
  simpa [Modifier.applyTo, Modifier.char, Modifier.low, Modifier.high] using
    (value (by omega)).append others

/-- A part between two texts, with or without a modifier. -/
theorem reads_between (k : Key) {t : Text} {e : Expr} {groups' : Nat}
    (shallow : depth + 1 < Expr.Reader.nestingLimit)
    (inside : Reads size o.relaxed (depth + 1) groups t [e] groups')
    (repeatable : Expr.Reader.repeatable e = true) (m : Option Modifier) :
    Reads size o.relaxed depth groups
      (Text.enclosed (o.literal k.lead ++ t ++ o.literal k.trail) ++ m.toList.map (·.char))
      [Modifier.applyTo m (enclosed (ofParts (o.textExprs k.lead ++ [e] ++ o.textExprs k.trail)))]
      groups' := by
  have inner := ((o.reads_literal k.lead).append inside).append (o.reads_literal k.trail)
  refine reads_enclosed shallow inner (repeatable_ofParts (by simp) ?_) m
  rw [List.forall_mem_append, List.forall_mem_append, List.forall_mem_singleton]
  exact ⟨⟨repeatable_textExprs o k.lead, repeatable⟩, repeatable_textExprs o k.trail⟩

/-- A group of literal text. -/
theorem reads_literalGroup (k : Key) (shallow : depth + 1 < Expr.Reader.nestingLimit)
    (literal : k.fragment.isEmpty = true) (solid : k.isBlank o = false) :
    Reads size o.relaxed depth groups
      (Text.enclosed (o.literal k.lead ++ o.literal k.trail) ++ k.modifier.toList.map (·.char))
      (if (o.textExprs k.lead ++ o.textExprs k.trail).isEmpty then []
        else [Modifier.applyTo k.modifier
          (enclosed (ofParts (o.textExprs k.lead ++ o.textExprs k.trail)))]) groups := by
  have inner : Reads size o.relaxed (depth + 1) groups (o.literal k.lead ++ o.literal k.trail)
      (o.textExprs k.lead ++ o.textExprs k.trail) groups :=
    (o.reads_literal k.lead).append (o.reads_literal k.trail)
  split
  · -- A group without any text is read as nothing, and nothing must not be repeated.
    rename_i blank
    obtain none : k.modifier = none := by
      simpa [isBlank, literal, blank] using solid
    rw [List.isEmpty_iff.1 blank] at inner
    have reads := Reads.scoped shallow inner (Expr.Reader.counts_nil) (e := .empty) rfl
    simpa [none, Text.enclosed, Expr.Reader.addPart] using reads
  · rename_i filled
    refine reads_enclosed shallow inner (repeatable_ofParts ?_ ?_) k.modifier
    · simpa [List.isEmpty_iff] using filled
    · rw [List.forall_mem_append]
      exact ⟨repeatable_textExprs o k.lead, repeatable_textExprs o k.trail⟩

/-- A parameter without a fragment of its own is read as its parts. -/
theorem reads (k : Key) (shallow : depth + 4 < Expr.Reader.nestingLimit)
    (simple : k.isSimple o = true) (solid : k.isBlank o = false) :
    Reads size o.relaxed depth groups (k.sourceBetween (o.literal k.lead) (o.literal k.trail))
      (k.exprs o groups) (k.groupsBehind groups) := by
  unfold sourceBetween exprs groupsBehind captures
  by_cases literal : k.fragment.isEmpty = true
  · simpa only [literal, if_true, Bool.not_true, Bool.false_eq_true, if_false] using
      reads_literalGroup k (by omega) literal solid
  · have segment : k.fragment = o.segment := fragment_eq simple (by simpa [captures] using literal)
    have filled : o.segment.isEmpty = false := by simpa [segment] using literal
    simp only [segment, filled, Bool.false_eq_true, if_false, Bool.not_false, if_true,
      Options.literal_isEmpty]
    have one : ∀ depth, depth + 1 < Expr.Reader.nestingLimit → ∀ m, Reads size o.relaxed depth
        groups (Text.captured o.segment ++ m.toList.map (·.char))
        [Modifier.applyTo m (group (groups + 1) o.segmentExpr)] (groups + 1) :=
      fun depth shallow m => reads_captured shallow o.reads_segment m
    -- Only texts around the value need a group that captures nothing.
    split
    · split
      · have values : Reads size o.relaxed (depth + 1) (groups + 1)
            (Text.enclosed o.segment ++ k.modifier.toList.map (·.char))
            [Modifier.applyTo k.modifier (enclosed o.segmentExpr)] (groups + 1) :=
          reads_value o (by omega) k.modifier
        have several := reads_captured (by omega) values none
        simpa [Modifier.applyTo, ofParts] using several
      · exact one depth (by omega) k.modifier
    · split
      · have several := reads_captured (by omega)
          (k.reads_run o size (depth + 2) (groups + 1) (by omega)) none
        rw [Option.toList_none, List.map_nil, List.append_nil] at several
        have whole := k.reads_between (by omega) several rfl
          (if k.isOptional then some .optional else none)
        cases optional : k.isOptional <;>
          simpa [optional, Modifier.applyTo, runExpr, ofParts, Modifier.char] using whole
      · have single := one (depth + 1) (by omega) none
        rw [Option.toList_none, List.map_nil, List.append_nil] at single
        exact k.reads_between (by omega) single rfl k.modifier

end Key

namespace Options

theorem reads_class {t : Text} (nonempty : t.isEmpty = false) (m : Option Modifier) :
    Reads size o.relaxed depth groups (Text.Escape.classOf t ++ m.toList.map (·.char))
      [Modifier.applyTo m (o.classExpr t)] groups := by
  have filled : t ≠ [] := by simpa using nonempty
  exact Reads.classOf filled (counts_modifiers o.relaxed m)
    (applyRepetition_modifiers (e := o.classExpr t) rfl m)

theorem reads_bareClass {t : Text} (nonempty : t.isEmpty = false) :
    Reads size o.relaxed depth groups (Text.Escape.classOf t) [o.classExpr t] groups := by
  simpa [Modifier.applyTo] using reads_class nonempty none

/-- The last alternatives of a look ahead. -/
theorem reads_stop (o : Options) (earlier : List Expr) :
    ReadsRest size o.relaxed depth groups earlier o.stop
      (Expr.Reader.alternation earlier o.stopExpr) groups := by
  unfold stop stopExpr
  split
  · exact Reads.textEnd.last
  · rename_i filled
    exact (reads_bareClass (by simpa using filled)).before Reads.textEnd.last

theorem bare_stopExpr (o : Options) : o.stopExpr.bare = o.stopExpr := by
  unfold stopExpr
  split <;> rfl

theorem reads_ahead_stop (o : Options) (shallow : depth + 1 < Expr.Reader.nestingLimit) :
    Reads size o.relaxed depth groups (Text.ahead o.stop) [look .ahead false o.stopExpr] groups := by
  have inside : ReadsRest size o.relaxed (depth + 1) groups [] o.stop
      (Expr.Reader.alternation [] o.stopExpr) groups := o.reads_stop []
  have reads := Reads.ahead shallow inside
  have shape : (Expr.Reader.alternation [] o.stopExpr).bare = o.stopExpr := o.bare_stopExpr
  rwa [shape] at reads

theorem reads_wholeEnding (o : Options) (shallow : depth + 1 < Expr.Reader.nestingLimit) :
    Reads size o.relaxed depth groups o.wholeEnding o.wholeEndingExprs groups := by
  unfold wholeEnding wholeEndingExprs delimiterClass?
  refine Reads.append (?_ : Reads size o.relaxed depth groups _ _ groups) ?_
  · cases strict : o.strict with
    | true => exact Reads.nil
    | false =>
      cases blank : o.delimiter.isEmpty with
      | true => exact Reads.nil
      | false => exact reads_class blank (some .optional)
  · split
    · exact Reads.textEnd
    · exact o.reads_ahead_stop shallow

theorem reads_partialEnding (o : Options) (delimited : Bool)
    (shallow : depth + 2 < Expr.Reader.nestingLimit) :
    Reads size o.relaxed depth groups (o.partialEnding delimited) (o.partialEndingExprs delimited)
      groups := by
  unfold partialEnding partialEndingExprs delimiterClass?
  refine Reads.append (?_ : Reads size o.relaxed depth groups _ _ groups) ?_
  · cases strict : o.strict with
    | true => exact Reads.nil
    | false =>
      cases blank : o.delimiter.isEmpty with
      | true => exact Reads.nil
      | false =>
        exact reads_enclosed (by omega)
          ((reads_bareClass blank).append (o.reads_ahead_stop (by omega))) rfl (some .optional)
  · cases delimited with
    | true => exact Reads.nil
    | false =>
      cases blank : o.delimiter.isEmpty with
      | true => exact o.reads_ahead_stop (by omega)
      | false =>
        have alternatives : ReadsRest size o.relaxed (depth + 1) groups []
            (Text.Escape.classOf o.delimiter ++ '|' :: o.stop)
            (alt (o.classExpr o.delimiter) o.stopExpr) groups :=
          (reads_bareClass blank).before (o.reads_stop _)
        have reads := Reads.ahead (by omega) alternatives
        simpa [Text.ahead, Expr.bare] using reads

/-- Reading under the flag for case. -/
theorem exists_read?_withCase (o : Options) {t : Text}
    (silent : Expr.Reader.quiet t = true) :
    ∃ bound size, t.length < bound ∧
      Expr.read? (o.withCase t) =
        (Expr.Reader.readBody bound (Expr.Reader.plain size o.relaxed 0) 0 [] [] t).bind
          Expr.Reader.notated? := by
  unfold Options.withCase Options.relaxed
  cases o.sensitive with
  | true => exact ⟨_, _, Nat.lt_succ_self _, Expr.Reader.read?_eq _⟩
  | false => exact ⟨_, _, by omega, Expr.Reader.read?_flag_eq silent⟩

end Options

namespace Token

theorem reads (ts : List Token) (shallow : depth + 4 < Expr.Reader.nestingLimit)
    (simple : Token.simple o ts = true) (solid : Token.solid o ts = true) :
    Reads size o.relaxed depth groups (ts.flatMap (·.source o)) (exprs o groups ts)
      (groupsBehind groups ts) := by
  induction ts generalizing groups with
  | nil => exact Reads.nil
  | cons t ts ih =>
    simp only [Token.simple, Token.solid, List.all_cons, Bool.and_eq_true] at simple solid
    rw [List.flatMap_cons]
    cases t with
    | text t => exact (o.reads_literal t).append (ih simple.2 solid.2)
    | param k =>
      have solidKey : k.isBlank o = false := by simpa [key?] using solid.1
      exact (k.reads shallow (by simpa [key?] using simple.1) solidKey).append (ih simple.2 solid.2)

theorem quiet_sources (ts : List Token) (simple : Token.simple o ts = true) {rest : Text}
    (silent : Expr.Reader.quiet rest = true) :
    Expr.Reader.quiet (ts.flatMap (·.source o) ++ rest) = true := by
  induction ts with
  | nil => exact silent
  | cons t ts ih =>
    simp only [Token.simple, List.all_cons, Bool.and_eq_true] at simple
    have later := ih simple.2
    rw [List.flatMap_cons, List.append_assoc]
    cases t with
    | text t =>
      have reads : Reads 0 o.relaxed 0 0 (o.literal t) (o.textExprs t) 0 := o.reads_literal t
      exact reads.silent _ later
    | param k =>
      cases blank : k.isBlank o with
      | false =>
        have reads : Reads 0 o.relaxed 0 0 ((param k).source o) (k.exprs o 0) (k.groupsBehind 0) :=
          k.reads (by decide) (by simpa [key?] using simple.1) blank
        exact reads.silent _ later
      | true =>
        simp only [Key.isBlank, Bool.and_eq_true] at blank
        simp only [source, Key.sourceBetween, blank.1.1, if_true]
        rfl

theorem readBody_blank {k : Key} (blank : k.isBlank o = true) (bound : Nat) (parts : List Expr)
    (rest : Text) :
    Expr.Reader.readBody bound (Expr.Reader.plain size o.relaxed groups) 0 parts []
      ((param k).source o ++ rest) = none := by
  simp only [Key.isBlank, Bool.and_eq_true] at blank
  obtain ⟨⟨fragment, texts⟩, modified⟩ := blank
  obtain ⟨m, modifier⟩ := Option.isSome_iff_exists.1 modified
  obtain ⟨lead, trail⟩ := List.append_eq_nil_iff.1 (List.isEmpty_iff.1 texts)
  rw [← List.isEmpty_iff, ← Options.literal_isEmpty, List.isEmpty_iff] at lead trail
  have shape : (param k).source o ++ rest = "(?:)".toList ++ m.char :: rest := by
    simp [source, Key.sourceBetween, fragment, lead, trail, modifier, Text.enclosed]
  rw [shape]
  exact Expr.Reader.readBody_blank m bound parts rest

/-- A token list does not compile if a group without any text has a modifier. -/
theorem readBody_not_solid (ts : List Token) (simple : Token.simple o ts = true)
    (solid : Token.solid o ts = false) {bound : Nat} (parts : List Expr) {rest : Text}
    (silent : Expr.Reader.quiet rest = true)
    (enough : (ts.flatMap (·.source o) ++ rest).length < bound) :
    Expr.Reader.readBody bound (Expr.Reader.plain size o.relaxed groups) 0 parts []
      (ts.flatMap (·.source o) ++ rest) = none := by
  induction ts generalizing groups parts bound with
  | nil => cases solid
  | cons t ts ih =>
    simp only [Token.simple, List.all_cons, Bool.and_eq_true] at simple
    have later := quiet_sources ts simple.2 silent
    have first : ∀ {es groups'}, Reads size o.relaxed 0 groups (t.source o) es groups' →
        Token.solid o ts = false →
        Expr.Reader.readBody bound (Expr.Reader.plain size o.relaxed groups) 0 parts []
          ((t :: ts).flatMap (·.source o) ++ rest) = none := by
      intro es groups' reads unsolid
      rw [List.flatMap_cons, List.append_assoc] at enough ⊢
      obtain ⟨bound', enough', read⟩ := reads.read parts [] enough later
      rw [read]
      exact ih simple.2 unsolid _ enough'
    -- What stands before the blank group is read; the blank one stops the reading.
    cases t with
    | text t => exact first (o.reads_literal t) (by simpa [Token.solid, key?] using solid)
    | param k =>
      cases blank : k.isBlank o with
      | true =>
        rw [List.flatMap_cons, List.append_assoc]
        exact readBody_blank blank bound parts _
      | false =>
        refine first (k.reads (by decide) (by simpa [key?] using simple.1) blank) ?_
        simpa [Token.solid, key?, blank] using solid

theorem reads_start (o : Options) :
    Reads size o.relaxed depth groups (if o.anchoredStart then ['^'] else [])
      (if o.anchoredStart then [anchor .textStart] else []) groups := by
  split
  · exact Reads.textStart
  · exact Reads.nil

theorem reads_ending (o : Options) (ts : List Token)
    (shallow : depth + 2 < Expr.Reader.nestingLimit) :
    Reads size o.relaxed depth groups
      (if o.anchoredEnd then o.wholeEnding else o.partialEnding (o.endsDelimited ts))
      (o.endingExprs ts) groups := by
  unfold Options.endingExprs
  split
  · exact o.reads_wholeEnding (by omega)
  · exact o.reads_partialEnding _ shallow

/-- What the whole expression is read as where other groups stand before it. -/
theorem reads_whole (ts : List Token) (shallow : depth + 4 < Expr.Reader.nestingLimit)
    (simple : Token.simple o ts = true) (solid : Token.solid o ts = true) :
    Reads size o.relaxed depth groups (sourceOf o ts)
      ((if o.anchoredStart then [anchor .textStart] else []) ++ exprs o groups ts ++
        o.endingExprs ts) (groupsBehind groups ts) :=
  ((reads_start o).append (reads ts shallow simple solid)).append (reads_ending o ts (by omega))

theorem quiet_ending (o : Options) (ts : List Token) :
    Expr.Reader.quiet
      (if o.anchoredEnd then o.wholeEnding else o.partialEnding (o.endsDelimited ts)) = true := by
  have reads : Reads 0 o.relaxed 0 0
      (if o.anchoredEnd then o.wholeEnding else o.partialEnding (o.endsDelimited ts))
      (o.endingExprs ts) 0 := reads_ending o ts (by decide)
  simpa using reads.silent [] rfl

theorem quiet_sourceOf (ts : List Token) (simple : Token.simple o ts = true) :
    Expr.Reader.quiet (sourceOf o ts) = true := by
  unfold sourceOf
  rw [List.append_assoc]
  have start : Reads 0 o.relaxed 0 0 (if o.anchoredStart then ['^'] else [])
      (if o.anchoredStart then [anchor .textStart] else []) 0 := reads_start o
  exact start.silent _ (quiet_sources ts simple (quiet_ending o ts))

/-- The notation of a token list is read as its parts, or not at all. -/
theorem read?_withCase (ts : List Token) (simple : Token.simple o ts = true) :
    Expr.read? (o.withCase (sourceOf o ts)) =
      if Token.solid o ts then some ⟨ofParts (wholeExprs o ts), groupsBehind 0 ts, []⟩ else none := by
  obtain ⟨bound, size, enough, read⟩ := o.exists_read?_withCase (quiet_sourceOf ts simple)
  rw [read]
  split
  · rename_i solid
    exact (reads_whole ts (by decide) simple solid).notated enough
  · rename_i unsolid
    have split : sourceOf o ts = (if o.anchoredStart then ['^'] else []) ++
        (ts.flatMap (·.source o) ++
          if o.anchoredEnd then o.wholeEnding else o.partialEnding (o.endsDelimited ts)) := by
      simp [sourceOf]
    rw [split] at enough ⊢
    obtain ⟨bound', enough', read'⟩ := (reads_start o).read [] [] enough
      (quiet_sources ts simple (quiet_ending o ts))
    rw [read', readBody_not_solid ts simple (by simpa using unsolid) _ (quiet_ending o ts) enough']
    rfl

end Token

end RoutePattern
