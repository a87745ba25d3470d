import RoutePattern.Proofs.Expr.Fragment
import RoutePattern.Proofs.Token.Alternation
import RoutePattern.Proofs.Token.Written

/-! # Token lists with fragments of their own

The expression of a token list whose fragments are expressions of their own is written down directly
(`Token.parts`). A token list that compiles is read as that expression (`Token.read?_parts`), in which
the groups of the parameters are numbered in their order and each one holds the fragment of its parameter
(`Token.captures_parts`).
-/

namespace RoutePattern

open RoutePattern.Expr (anchor enclosed group look ofParts rep wrapped)
open Expr.Reader (Adds Bracketed Reads addPart applyRepetition)

/-! ## Groups and what they hold -/

namespace Expr

/-- The groups of an expression with what they hold. -/
def captures : Expr → List (Nat × Expr)
  | group n a => (n, a) :: a.captures
  | seq a b | alt a b => a.captures ++ b.captures
  | enclosed a | rep a _ _ _ | look _ _ a | atomic a => a.captures
  | empty | char _ | anchor _ | backref _ => []

theorem map_fst_captures (e : Expr) : e.captures.map (·.1) = e.groups := by
  induction e <;> simp [captures, groups, *]

theorem captures_of_groupless {e : Expr} (groupless : e.groups = []) : e.captures = [] := by
  rw [← map_fst_captures] at groupless
  exact List.map_eq_nil_iff.1 groupless

theorem captures_ofParts (es : List Expr) : (ofParts es).captures = es.flatMap (·.captures) := by
  induction es with
  | nil => rfl
  | cons e es ih =>
    cases es with
    | nil => simp [ofParts]
    | cons e' es => simp only [ofParts, captures, ih, List.flatMap_cons]

theorem captures_applyTo (m : Option Modifier) (e : Expr) :
    (Modifier.applyTo m e).captures = e.captures := by
  cases m <;> rfl

theorem captures_wrapped (e : Expr) : (wrapped e).captures = e.captures := by
  by_cases nothing : e = empty
  · rw [nothing]
    rfl
  · simp [wrapped, nothing, captures]

theorem captures_addPart (e : Expr) : (addPart e []).flatMap (·.captures) = e.captures := by
  by_cases nothing : e = empty
  · rw [nothing]
    rfl
  · simp [addPart, nothing]

end Expr

/-! ## Brackets -/

section Brackets

variable {size depth groups groups' : Nat} {relaxed : Bool} {t : Text} {a e : Expr}

theorem eq_of_applyRepetition {m : Option Modifier}
    (applied : applyRepetition a (m.map fun m => ⟨m.low, m.high, true, false⟩) = some e) :
    e = Modifier.applyTo m a := by
  cases m with
  | none => exact (Option.some.inj applied).symm
  | some m =>
    simp only [applyRepetition, Option.map_some, Option.ite_none_right_eq_some,
      Option.some.injEq] at applied
    exact applied.2.symm

/-- A group that captures nothing, with or without a modifier. -/
theorem adds_enclosed (inside : Bracketed size relaxed (depth + 1) groups t a groups')
    (m : Option Modifier) :
    Adds size relaxed depth groups (Text.enclosed t ++ m.toList.map (·.char))
      (addPart (Modifier.applyTo m (wrapped a)) []) groups' := by
  have whole : Adds size relaxed depth groups
      ('(' :: ['?', ':'] ++ t ++ [')'] ++ m.toList.map (·.char))
      (addPart (Modifier.applyTo m (wrapped a)) []) groups' := by
    refine Adds.group ['?', ':'] (.scoped { relaxed }) rfl rfl rfl (fun _ => rfl)
      (fun _ => ⟨_, rfl, rfl⟩) inside (counts_modifiers relaxed m) fun e applied => ?_
    rw [eq_of_applyRepetition applied]
    rfl
  simpa [Text.enclosed] using whole

/-- A group that captures, with or without a modifier. -/
theorem adds_captured (inside : Bracketed size relaxed (depth + 1) (groups + 1) t a groups')
    (m : Option Modifier) :
    Adds size relaxed depth groups (Text.captured t ++ m.toList.map (·.char))
      [Modifier.applyTo m (group (groups + 1) a)] groups' := by
  have whole : Adds size relaxed depth groups ('(' :: [] ++ t ++ [')'] ++ m.toList.map (·.char))
      [Modifier.applyTo m (group (groups + 1) a)] groups' := by
    refine Adds.group [] (.capture none) rfl rfl rfl (fun rest => ?_) (fun rest => ?_) inside
      (counts_modifiers relaxed m) fun e applied => ?_
    · -- What is captured is no `?`, so no comment opens here.
      obtain ⟨u, skipped, unmarked⟩ := inside.starts rest
      rw [List.singleton_append]
      generalize t ++ ')' :: rest = held at skipped
      unfold Expr.Reader.quiet
      split <;> simp_all [Expr.Reader.skip, Expr.Reader.skipBlank, Expr.Reader.isBlank]
      obtain rfl := skipped
      simp at unmarked
    · obtain ⟨u, skipped, unmarked⟩ := inside.starts rest
      refine ⟨u, (Expr.Reader.skip_skip skipped).trans skipped.symm, ?_⟩
      rw [List.nil_append, skipped, Option.bind_some]
      unfold Expr.Reader.readGroupHead
      split <;> simp_all
    · rw [eq_of_applyRepetition applied]
      cases m <;> rfl
  simpa [Text.captured] using whole

end Brackets

theorem captures_textExprs (o : Options) (t : Text) :
    (o.textExprs t).flatMap (·.captures) = [] := by
  rw [List.flatMap_eq_nil_iff]
  exact o.forall_mem_textExprs (fun _ => rfl) t

/-- The fragment of a parameter without one of its own stands alone. -/
theorem Options.ofFragment?_segment (o : Options) :
    Expr.ofFragment? o.relaxed o.segment = some o.segmentExpr := by
  have last : Expr.Reader.ReadsRest 0 o.relaxed 0 0 [] o.segment
      (Expr.Reader.alternation [] (ofParts [o.segmentExpr])) 0 := o.reads_segment.last
  have read := last (o.segment.length + 2) [')'] (by simp) rfl
  rw [Expr.Reader.ofFragment?_eq_some_iff, Expr.within?, read]
  exact if_pos rfl

/-- What adds parts wherever it is read is read as these parts, if it can be read at all. -/
theorem Options.eq_of_read?_adds (o : Options) {t : Text} {es : List Expr} {groups : Nat}
    (adds : ∀ size, Adds size o.relaxed 0 0 t es groups) {n : Expr.Notated}
    (read : Expr.read? (o.withCase t) = some n) : n = ⟨ofParts es, groups, []⟩ := by
  have silent : Expr.Reader.quiet t = true := by simpa using (adds 0).silent [] rfl
  obtain ⟨bound, size, -, same⟩ := o.exists_read?_withCase silent
  rw [same, Option.bind_eq_some_iff] at read
  obtain ⟨⟨e, ctx, rest⟩, read, notated⟩ := read
  have body := Expr.Reader.body_of_readBody read
  rw [← List.append_nil t] at body
  obtain ⟨rfl, rfl, rfl⟩ := ((adds size).behind rfl body).finish_eq rfl rfl
  obtain rfl := Option.some.inj notated
  simp [Expr.Reader.alternation, Expr.Reader.plain]

/-! ## Parameters -/

namespace Key

variable {o : Options} {size depth groups : Nat} {k : Key}

/-- What the fragment of a parameter is read as, if it is an expression of its own. -/
def fragmentExpr (o : Options) (k : Key) : Expr := (Expr.ofFragment? o.relaxed k.fragment).getD .empty

/-- The fragment between brackets. -/
def valueParts (o : Options) (k : Key) : List Expr := addPart (wrapped (k.fragmentExpr o)) []

/-- What the group of a parameter holds: its fragment, or a run of values that it matches with the texts
between them. -/
def heldExpr (o : Options) (k : Key) : Expr :=
  if !k.repeats then k.fragmentExpr o
  else if (o.textExprs k.lead).isEmpty && (o.textExprs k.trail).isEmpty then
    ofParts (addPart (Modifier.applyTo k.modifier (wrapped (k.fragmentExpr o))) [])
  else
    ofParts (k.valueParts o ++ addPart (Modifier.applyTo (some .zeroOrMore)
      (wrapped (ofParts (o.textExprs k.trail ++ o.textExprs k.lead ++ k.valueParts o)))) [])

/-- The parts of a parameter, or of a group, that `groups` capturing groups stand before. -/
def parts (o : Options) (groups : Nat) (k : Key) : List Expr :=
  let held := group (groups + 1) (k.heldExpr o)
  if k.fragment.isEmpty then
    addPart (Modifier.applyTo k.modifier
      (wrapped (ofParts (o.textExprs k.lead ++ o.textExprs k.trail)))) []
  else if (o.textExprs k.lead).isEmpty && (o.textExprs k.trail).isEmpty then
    [Modifier.applyTo (if k.repeats then none else k.modifier) held]
  else
    addPart (Modifier.applyTo
      (if k.repeats then (if k.isOptional then some .optional else none) else k.modifier)
      (wrapped (ofParts (o.textExprs k.lead ++ [held] ++ o.textExprs k.trail)))) []

/-- The fragment is an expression of its own. -/
def StandsAlone (o : Options) (k : Key) : Prop :=
  (Expr.ofFragment? o.relaxed k.fragment).isSome = true

/-- The fragment keeps within the brackets around it: it ends at the bracket that closes them and leaves
the flags as they are. It is read with no group open, so a fragment that refers back to a group, such as
the second one of `/:a(\d+)/:b(\1)`, does not count as confined. -/
def Confined (o : Options) (k : Key) : Prop := (Expr.within? o.relaxed k.fragment).isSome = true

instance (o : Options) (k : Key) : Decidable (k.Confined o) :=
  inferInstanceAs (Decidable ((Expr.within? o.relaxed k.fragment).isSome = true))

theorem Confined.standsAlone (confined : k.Confined o) (isFragment : Lexeme.IsFragment k.fragment) :
    k.StandsAlone o :=
  Expr.Reader.isSome_ofFragment? isFragment confined

theorem standsAlone_of_segment (segment : k.fragment = o.segment) : k.StandsAlone o := by
  rw [StandsAlone, segment, o.ofFragment?_segment, Option.isSome_some]

theorem StandsAlone.found (alone : k.StandsAlone o) :
    Expr.ofFragment? o.relaxed k.fragment = some (k.fragmentExpr o) := by
  obtain ⟨e, found⟩ := Option.isSome_iff_exists.1 alone
  rw [fragmentExpr, found, Option.getD_some]

theorem StandsAlone.bracketed (alone : k.StandsAlone o) :
    Bracketed size o.relaxed depth groups k.fragment (k.fragmentExpr o) groups :=
  Expr.Reader.bracketed_of_ofFragment? alone.found

theorem adds_literal (o : Options) (t : Text) :
    Adds size o.relaxed depth groups (o.literal t) (o.textExprs t) groups :=
  (o.reads_literal t).adds

theorem StandsAlone.adds_value (alone : k.StandsAlone o) :
    Adds size o.relaxed depth groups (Text.enclosed k.fragment) (k.valueParts o) groups := by
  simpa [valueParts, Modifier.applyTo] using adds_enclosed alone.bracketed none

/-- Several values, one after another. -/
theorem StandsAlone.adds_run (alone : k.StandsAlone o) :
    Adds size o.relaxed depth groups
      (Text.enclosed k.fragment ++
        Text.enclosed (o.literal k.trail ++ o.literal k.lead ++ Text.enclosed k.fragment) ++ ['*'])
      (k.valueParts o ++ addPart (Modifier.applyTo (some .zeroOrMore)
        (wrapped (ofParts (o.textExprs k.trail ++ o.textExprs k.lead ++ k.valueParts o)))) [])
      groups := by
  have inner : Adds size o.relaxed (depth + 1) groups
      (o.literal k.trail ++ o.literal k.lead ++ Text.enclosed k.fragment)
      (o.textExprs k.trail ++ o.textExprs k.lead ++ k.valueParts o) groups :=
    ((adds_literal o k.trail).append (adds_literal o k.lead)).append alone.adds_value
  have value : Adds size o.relaxed depth groups (Text.enclosed k.fragment) (k.valueParts o) groups :=
    alone.adds_value
  simpa [Modifier.char] using value.append (adds_enclosed inner.bracketed (some .zeroOrMore))

/-- What the group of a parameter holds between two texts. -/
theorem StandsAlone.bracketed_held (alone : k.StandsAlone o)
    (texts : ((o.textExprs k.lead).isEmpty && (o.textExprs k.trail).isEmpty) = false) :
    Bracketed size o.relaxed depth groups
      (if k.repeats then Text.enclosed k.fragment ++
        Text.enclosed (o.literal k.trail ++ o.literal k.lead ++ Text.enclosed k.fragment) ++ ['*']
      else k.fragment) (k.heldExpr o) groups := by
  cases repeats : k.repeats with
  | true => simpa [heldExpr, repeats, texts] using alone.adds_run.bracketed
  | false => simpa [heldExpr, repeats] using alone.bracketed

/-- A part between the texts around a parameter, with or without a modifier. -/
theorem adds_between (k : Key) {t : Text} {e : Expr} {groups' : Nat}
    (inside : Adds size o.relaxed (depth + 1) groups t [e] groups') (m : Option Modifier) :
    Adds size o.relaxed depth groups
      (Text.enclosed (o.literal k.lead ++ t ++ o.literal k.trail) ++ m.toList.map (·.char))
      (addPart (Modifier.applyTo m
        (wrapped (ofParts (o.textExprs k.lead ++ [e] ++ o.textExprs k.trail)))) []) groups' :=
  adds_enclosed (((adds_literal o k.lead).append inside).append (adds_literal o k.trail)).bracketed m

/-- The whole group of a parameter. -/
theorem adds_held {t : Text}
    (inside : Bracketed size o.relaxed (depth + 1) (groups + 1) t (k.heldExpr o) (groups + 1)) :
    Adds size o.relaxed depth groups (Text.captured t) [group (groups + 1) (k.heldExpr o)]
      (groups + 1) := by
  simpa [Modifier.applyTo] using adds_captured inside none

theorem adds_parts (alone : k.captures = true → k.StandsAlone o) :
    Adds size o.relaxed 0 groups (k.sourceBetween (o.literal k.lead) (o.literal k.trail))
      (k.parts o groups) (k.groupsBehind groups) := by
  unfold sourceBetween parts groupsBehind
  by_cases literal : k.fragment.isEmpty = true
  · simpa only [literal, captures, if_true, Bool.not_true, Bool.false_eq_true, if_false] using
      adds_enclosed ((adds_literal o k.lead).append (adds_literal o k.trail)).bracketed k.modifier
  · have captures : k.captures = true := by simpa [captures] using literal
    have alone := alone captures
    have value : k.repeats = false → k.heldExpr o = k.fragmentExpr o := by
      intro once
      simp [heldExpr, once]
    simp only [captures, literal, if_true, o.literal_isEmpty]
    cases texts : (o.textExprs k.lead).isEmpty && (o.textExprs k.trail).isEmpty with
    | true =>
      cases repeats : k.repeats with
      | true =>
        have inside : Bracketed size o.relaxed 1 (groups + 1)
            (Text.enclosed k.fragment ++ k.modifier.toList.map (·.char)) (k.heldExpr o)
            (groups + 1) := by
          simpa [heldExpr, repeats, texts] using
            (adds_enclosed alone.bracketed k.modifier).bracketed
        simpa [Modifier.applyTo] using adds_held inside
      | false =>
        rw [value repeats]
        simpa using adds_captured alone.bracketed k.modifier
    | false =>
      have inside : Adds size o.relaxed 1 groups _ [group (groups + 1) (k.heldExpr o)] (groups + 1) :=
        adds_held (alone.bracketed_held texts)
      cases repeats : k.repeats with
      | true =>
        rw [repeats, if_pos rfl] at inside
        have marks : (if k.isOptional then ['?'] else []) =
            (if k.isOptional then some Modifier.optional else none).toList.map (·.char) := by
          cases k.isOptional <;> rfl
        simpa [marks] using
          adds_between k inside (if k.isOptional then some .optional else none)
      | false =>
        rw [repeats, if_neg Bool.false_ne_true] at inside
        simpa using adds_between k inside k.modifier

theorem groupless_fragmentExpr (o : Options) (k : Key) : (k.fragmentExpr o).groups = [] := by
  unfold fragmentExpr
  cases found : Expr.ofFragment? o.relaxed k.fragment with
  | none => rfl
  | some e => exact Expr.Reader.groupless_of_ofFragment? found

/-- The group of a parameter holds no other groups. -/
theorem captures_heldExpr (o : Options) (k : Key) : (k.heldExpr o).captures = [] := by
  have value := Expr.captures_of_groupless (groupless_fragmentExpr o k)
  unfold heldExpr valueParts
  split_ifs <;>
    simp [Expr.captures_ofParts, Expr.captures_addPart, Expr.captures_applyTo, Expr.captures_wrapped,
      captures_textExprs, value]

theorem captures_parts (o : Options) (groups : Nat) (k : Key) :
    (k.parts o groups).flatMap (·.captures) =
      if k.captures then [(groups + 1, k.heldExpr o)] else [] := by
  unfold parts captures
  split_ifs <;>
    simp_all [Expr.captures_ofParts, Expr.captures_addPart, Expr.captures_applyTo,
      Expr.captures_wrapped, captures_textExprs, Expr.captures, captures_heldExpr]

end Key

/-! ## Token lists -/

namespace Token

variable {o : Options} {size groups : Nat} {ts : List Token}

/-- The fragments of a pattern are expressions of their own if they keep within their brackets. -/
theorem standsAlone_of_confined {pattern : Text} (read : ofPattern? o pattern = .ok ts)
    (confined : ∀ k ∈ keys ts, k.fragment ≠ o.segment → k.Confined o) :
    ∀ k ∈ keys ts, k.StandsAlone o := by
  intro k member
  by_cases segment : k.fragment = o.segment
  · exact Key.standsAlone_of_segment segment
  · exact (confined k member segment).standsAlone (isFragment_of_ofPattern? read member segment)

/-- The parts of tokens whose fragments stand alone. -/
def parts (o : Options) (groups : Nat) : List Token → List Expr
  | [] => []
  | text t :: ts => o.textExprs t ++ parts o groups ts
  | param k :: ts => k.parts o groups ++ parts o (k.groupsBehind groups) ts

/-- The parts of the whole expression. -/
def wholeParts (o : Options) (ts : List Token) : List Expr :=
  (if o.anchoredStart then [anchor .textStart] else []) ++ parts o 0 ts ++ o.endingExprs ts

theorem adds_parts (alone : ∀ k ∈ keys ts, k.StandsAlone o) :
    Adds size o.relaxed 0 groups (ts.flatMap (·.source o)) (parts o groups ts)
      (groupsBehind groups ts) := by
  induction ts generalizing groups with
  | nil => exact Reads.nil.adds
  | cons t ts ih =>
    rw [List.flatMap_cons]
    cases t with
    | text t => exact (Key.adds_literal o t).append (ih alone)
    | param k =>
      cases captures : k.captures with
      | true =>
        rw [keys_param captures, List.forall_mem_cons] at alone
        exact (Key.adds_parts fun _ => alone.1).append (ih alone.2)
      | false =>
        rw [keys_group captures] at alone
        exact (Key.adds_parts (by simp [captures])).append (ih alone)

theorem adds_whole (alone : ∀ k ∈ keys ts, k.StandsAlone o) :
    Adds size o.relaxed 0 0 (sourceOf o ts) (wholeParts o ts) (groupsBehind 0 ts) :=
  ((reads_start o).adds.append (adds_parts alone)).append (reads_ending o ts (by decide)).adds

/-- A token list that can be read at all is read as its parts. -/
theorem read?_parts (alone : ∀ k ∈ keys ts, k.StandsAlone o) {n : Expr.Notated}
    (read : Expr.read? (o.withCase (sourceOf o ts)) = some n) :
    n = ⟨ofParts (wholeParts o ts), (keys ts).length, []⟩ := by
  rw [o.eq_of_read?_adds (fun _ => adds_whole alone) read, groupsBehind_eq, Nat.zero_add]

/-- The groups of tokens are those of the parameters in their order. -/
theorem captures_parts (o : Options) (groups : Nat) (ts : List Token) :
    (parts o groups ts).flatMap (·.captures) =
      ((keys ts).zipIdx (groups + 1)).map fun (k, i) => (i, k.heldExpr o) := by
  induction ts generalizing groups with
  | nil => rfl
  | cons t ts ih =>
    cases t with
    | text t => simp [parts, captures_textExprs, ih]
    | param k =>
      rw [parts, List.flatMap_append, k.captures_parts, ih, Key.groupsBehind]
      cases captures : k.captures with
      | true =>
        rw [if_pos rfl, if_pos rfl, keys_param captures, List.zipIdx_cons, List.map_cons]
        rfl
      | false => rw [if_neg (by simp), if_neg (by simp), keys_group captures, List.nil_append]

theorem captures_wholeParts (o : Options) (ts : List Token) :
    (ofParts (wholeParts o ts)).captures =
      ((keys ts).zipIdx 1).map fun (k, i) => (i, k.heldExpr o) := by
  have start : (if o.anchoredStart then [anchor .textStart] else []).flatMap (·.captures) = [] := by
    split <;> rfl
  have ending : (o.endingExprs ts).flatMap (·.captures) = [] :=
    List.flatMap_eq_nil_iff.2 fun e member =>
      Expr.captures_of_groupless (o.groups_endingExprs ts e member)
  rw [Expr.captures_ofParts, wholeParts, List.flatMap_append, List.flatMap_append, start, ending,
    captures_parts, List.append_nil, List.nil_append]

end Token

end RoutePattern
