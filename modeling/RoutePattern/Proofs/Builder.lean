import RoutePattern.Proofs.Params
import RoutePattern.Proofs.Token.Ending
import RoutePattern.Proofs.Text.Split

/-! # What a builder writes

A builder accepts the values that a parameter may hold (`accepts_validator_iff`), and what it writes is
laid out from the tokens and from the values that their parameters find (`build_eq_ok_iff`).
-/

namespace RoutePattern

open RoutePattern.Expr (anchor enclosed ofParts waysThrough)
open Expr.Reader (Reads)

/-! ## Validators -/

section Validators

variable {o : Options} {size : Nat} {k : Key} {p : Program}

/-- What the check of a parameter is read as. -/
def Options.validatorExprs (o : Options) : List Expr :=
  [anchor .textStart, enclosed o.segmentExpr, anchor .textEnd]

theorem Key.reads_validator (segment : k.fragment = o.segment) :
    Reads size o.relaxed 0 0 k.validatorSource o.validatorExprs 0 := by
  have value : Reads size o.relaxed 0 0 (Text.enclosed o.segment) [enclosed o.segmentExpr] 0 := by
    simpa [Modifier.applyTo] using reads_value o (by decide) none
  have whole := (Reads.textStart.append value).append Reads.textEnd
  simpa [Key.validatorSource, Options.validatorExprs, segment] using whole

theorem Key.read?_validator (segment : k.fragment = o.segment) :
    Expr.read? (o.withCase k.validatorSource) = some ⟨ofParts o.validatorExprs, 0, []⟩ := by
  -- The flag for case stands in front, and the check must not be taken for its counts.
  have silent : Expr.Reader.quiet k.validatorSource = true := by
    have reads : Reads 0 o.relaxed 0 0 k.validatorSource o.validatorExprs 0 :=
      Key.reads_validator segment
    simpa using reads.silent [] rfl
  obtain ⟨bound, size, enough, same⟩ := o.exists_read?_withCase silent
  rw [same, (Key.reads_validator segment).notated enough]

theorem Key.program_validator (segment : k.fragment = o.segment)
    (compiled : Program.ofSource o k.validatorSource = .ok p) :
    Program.ofNotated? ⟨ofParts o.validatorExprs, 0, []⟩ = some p := by
  obtain ⟨n, read, program⟩ := Program.exists_of_ofSource compiled
  rw [Key.read?_validator segment] at read
  obtain rfl := Option.some.inj read
  exact program

theorem Options.exists_validator_way_iff (o : Options) (v : Text) :
    (∃ u, u ∈ waysThrough o.validatorExprs (.ofPlace (.start v))) ↔ v ∈ o.values := by
  have split : o.validatorExprs = [anchor .textStart] ++ [enclosed o.segmentExpr] ++
      [anchor .textEnd] := rfl
  have start : waysThrough [anchor .textStart] (.ofPlace (.start v)) = [.ofPlace (.start v)] := rfl
  have value : ∀ t u, u ∈ waysThrough [enclosed o.segmentExpr] t ↔
      ∃ m ∈ o.values, m <+: t.place.after ∧ u = t.skip m := by
    intro t u
    have plain : ∀ e ∈ [enclosed o.segmentExpr], e.isPlain = true := List.forall_mem_singleton.2 rfl
    have groupless : ∀ e ∈ [enclosed o.segmentExpr], e.groups = [] := List.forall_mem_singleton.2 rfl
    rw [mem_waysThrough_plain plain groupless, List.map_singleton, List.prod_singleton,
      Expr.language, o.language_segment]
  have last : ∀ t u, u ∈ waysThrough [anchor .textEnd] t ↔ u = t ∧ t.place.after = [] := by
    intro t u
    rw [Expr.waysThrough_single, Options.mem_ways_textEnd]
  rw [split, Expr.waysThrough_append, Expr.waysThrough_append, start, List.flatMap_singleton]
  simp only [List.mem_flatMap, value, last]
  constructor
  · rintro ⟨-, -, ⟨m, member, ahead, rfl⟩, rfl, finished⟩
    have whole : m = v := by
      refine ahead.eq_of_length_le ?_
      simpa [Thread.ofPlace, Place.start] using finished
    rwa [← whole]
  · intro member
    exact ⟨_, _, ⟨v, member, List.prefix_refl v, rfl⟩, rfl, by simp [Thread.ofPlace, Place.start]⟩

/-- The values that pass the check of a parameter are those that it may hold. -/
theorem Key.accepts_validator_iff (segment : k.fragment = o.segment)
    (compiled : Program.ofSource o k.validatorSource = .ok p) (v : Text) :
    p.accepts v = true ↔ v ∈ o.values := by
  have program := Key.program_validator segment compiled
  have tame : (ofParts o.validatorExprs).tame = true := rfl
  have finished := Program.search_ne_gaveUp rfl program v
  have anchored : ∀ t : Thread, t.place.before ≠ [] → (ofParts o.validatorExprs).ways t = [] := by
    intro t moved
    simp [Options.validatorExprs, ofParts, Expr.ways, Anchor.holds, moved]
  rw [Program.accepts, Program.find?_anchored tame program anchored finished, Expr.ways_ofParts,
    Option.isSome_map, List.isSome_head?, ← o.exists_validator_way_iff]
  constructor
  · exact List.exists_mem_of_ne_nil _
  · rintro ⟨u, way⟩
    exact List.ne_nil_of_mem way

end Validators

/-! ## Values -/

namespace Value

/-- The texts of a value. -/
def parts : Value → List Text
  | single t => [t]
  | repeated ts => ts

end Value

namespace Key

/-- A value as its group holds it. -/
def run (encode : Codec) (k : Key) : Value → Text
  | .single t => encode.encode t
  | .repeated ts => k.separator.intercalate (ts.map encode.encode)

/-- A parameter that repeats takes a list of values, and any other one a single value. -/
def Takes (k : Key) : Value → Prop
  | .single _ => k.repeats = false
  | .repeated ts => k.repeats = true ∧ ts ≠ []

/-- The values pass the check if there is one; there is no value only for an optional parameter. -/
def Admits (o : Options) (k : Key) : Option Value → Prop
  | none => k.isOptional = true
  | some v => o.validate = true → ∀ t ∈ v.parts, o.encode.encode t ∈ o.values

/-- A repeated parameter has a text on one side at most. -/
def OneSided (k : Key) : Prop := k.repeats = true → k.lead = [] ∨ k.trail = []

instance (k : Key) : Decidable k.OneSided :=
  inferInstanceAs (Decidable (k.repeats = true → k.lead = [] ∨ k.trail = []))

end Key

namespace Builder

variable {o : Options} {b : Builder} {k : Key} {p : Program} {data : Params}

/-- The options of a builder, without its tokens. -/
structure Under (o : Options) (b : Builder) : Prop where
  encode : b.encode = o.encode
  validate : b.validate = o.validate

theorem segment_eq_ok_iff (under : b.Under o) (segment : k.fragment = o.segment)
    (compiled : Program.ofSource o k.validatorSource = .ok p) {v s : Text} :
    b.segment k (some p) v = .ok s ↔
      (o.validate = true → o.encode.encode v ∈ o.values) ∧ s = o.encode.encode v := by
  have accepted := Key.accepts_validator_iff segment compiled (o.encode.encode v)
  simp only [Builder.segment, under.encode, under.validate, Option.all_some]
  split
  · rename_i refused
    simp only [Bool.and_eq_true, Bool.not_eq_true', ← Bool.not_eq_true, accepted] at refused
    simp [refused]
  · rename_i passed
    simp only [Bool.and_eq_true, Bool.not_eq_true', ← Bool.not_eq_true, accepted, not_and,
      not_not] at passed
    simp only [Except.ok.injEq, eq_comm (a := s)]
    exact ⟨fun same => ⟨passed, same⟩, And.right⟩

theorem piece_eq_ok_iff (under : b.Under o) (segment : k.fragment = o.segment)
    (compiled : Program.ofSource o k.validatorSource = .ok p) {v s : Text} :
    b.piece k (some p) v = .ok s ↔
      (o.validate = true → o.encode.encode v ∈ o.values) ∧
        s = k.lead ++ o.encode.encode v ++ k.trail := by
  simp only [Builder.piece, bind_eq_ok_iff, segment_eq_ok_iff under segment compiled]
  constructor
  · rintro ⟨-, ⟨passed, rfl⟩, same⟩
    exact ⟨passed, (Except.ok.inj same).symm⟩
  · rintro ⟨passed, rfl⟩
    exact ⟨_, ⟨passed, rfl⟩, rfl⟩

theorem pieces_eq_ok_iff (under : b.Under o) (segment : k.fragment = o.segment)
    (compiled : Program.ofSource o k.validatorSource = .ok p) {vs ss : List Text} :
    vs.mapM (b.piece k (some p)) = .ok ss ↔
      (o.validate = true → ∀ v ∈ vs, o.encode.encode v ∈ o.values) ∧
        ss = vs.map fun v => k.lead ++ o.encode.encode v ++ k.trail := by
  rw [mapM_eq_ok_iff]
  induction vs generalizing ss with
  | nil => simp [List.forall₂_nil_left_iff]
  | cons v vs ih =>
    simp only [List.forall₂_cons_left_iff, ih]
    simp only [piece_eq_ok_iff under segment compiled, List.forall_mem_cons, List.map_cons]
    constructor
    · rintro ⟨_, _, ⟨here, rfl⟩, ⟨later, rfl⟩, rfl⟩
      exact ⟨fun validate => ⟨here validate, later validate⟩, rfl⟩
    · rintro ⟨passed, rfl⟩
      exact ⟨_, _, ⟨fun validate => (passed validate).1, rfl⟩,
        ⟨fun validate => (passed validate).2, rfl⟩, rfl⟩

/-- What a parameter adds to the path. -/
theorem param_eq_ok_iff (under : b.Under o) (segment : k.fragment = o.segment)
    (compiled : Program.ofSource o k.validatorSource = .ok p) (oneSided : k.OneSided)
    {value : Option Value} (takes : ∀ v ∈ value, k.Takes v) {s : Text} :
    b.param k (some p) value = .ok s ↔
      k.Admits o value ∧ s = k.piece (value.map (k.run o.encode)) := by
  match value with
  | none =>
    simp only [Builder.param, Key.Admits, Option.map_none, Key.piece_none]
    cases k.isOptional with
    | true => simp [eq_comm]
    | false => simp
  | some (.single v) =>
    simp only [Builder.param, piece_eq_ok_iff under segment compiled, Key.Admits, Value.parts,
      List.forall_mem_singleton, Option.map_some, Key.run, Key.piece_some]
  | some (.repeated []) =>
    -- A builder would write nothing here, but no parameter takes an empty list.
    exact absurd rfl (takes _ rfl).2
  | some (.repeated (v :: vs)) =>
    have repeats : k.repeats = true := (takes _ rfl).1
    -- With a text on one side only, the pieces are the run between these texts.
    have between := Text.flatten_between (oneSided repeats)
      (List.cons_ne_nil (o.encode.encode v) (vs.map o.encode.encode))
    rw [← List.map_cons, List.map_map] at between
    simp only [Builder.param, repeats, Bool.not_true, Bool.false_eq_true, if_false, bind_eq_ok_iff,
      pieces_eq_ok_iff under segment compiled, Key.Admits, Value.parts, Option.map_some, Key.run,
      Key.piece_some, Key.separator]
    constructor
    · rintro ⟨_, ⟨passed, rfl⟩, same⟩
      exact ⟨passed, by rw [← between, ← Except.ok.inj same]; rfl⟩
    · rintro ⟨passed, rfl⟩
      exact ⟨_, ⟨passed, rfl⟩, by rw [← between]; rfl⟩

theorem exists_flatten_cons_iff {α : Type} {R : α → Text → Prop} {a : α} {as : List α}
    {path : Text} :
    (∃ pieces, List.Forall₂ R (a :: as) pieces ∧ pieces.flatten = path) ↔
      ∃ piece rest, R a piece ∧ (∃ pieces, List.Forall₂ R as pieces ∧ pieces.flatten = rest) ∧
        path = piece ++ rest := by
  simp only [List.forall₂_cons_left_iff]
  constructor
  · rintro ⟨_, ⟨piece, pieces, here, others, rfl⟩, rfl⟩
    exact ⟨piece, pieces.flatten, here, ⟨pieces, others, rfl⟩, rfl⟩
  · rintro ⟨piece, _, here, ⟨pieces, others, rfl⟩, rfl⟩
    exact ⟨piece :: pieces, ⟨piece, pieces, here, others, rfl⟩, rfl⟩

/-- The parts of a builder write the layout of what the parameters find. -/
theorem parts_eq_ok_iff (under : b.Under o) {ts : List Token} (simple : Token.simple o ts = true)
    (capturing : Token.Capturing ts) (oneSided : ∀ k ∈ Token.keys ts, k.OneSided)
    (takes : ∀ k ∈ Token.keys ts, ∀ v ∈ data.get? k.name.text, k.Takes v)
    {parts : List (Token × Option Program)}
    (made : List.Forall₂ (fun t part => partOf o t = .ok part) ts parts) (path : Text) :
    (∃ pieces, List.Forall₂ (fun part piece => b.part data part = .ok piece) parts pieces ∧
        pieces.flatten = path) ↔
      (∀ k ∈ Token.keys ts, k.Admits o (data.get? k.name.text)) ∧
        path = Token.layout ts
          ((Token.keys ts).map fun k => (data.get? k.name.text).map (k.run o.encode)) := by
  induction made generalizing path with
  | nil => simp [Token.layout, eq_comm]
  | @cons t part ts parts first rest ih =>
    simp only [Token.simple, List.all_cons, Bool.and_eq_true] at simple
    cases t with
    | text s =>
      have later := ih simple.2 capturing.tail (by simpa using oneSided) (by simpa using takes)
      obtain rfl := Except.ok.inj first
      rw [exists_flatten_cons_iff, Token.keys_text, Token.layout]
      simp only [later]
      constructor
      · rintro ⟨_, _, here, ⟨admitted, rfl⟩, rfl⟩
        rw [← Except.ok.inj here]
        exact ⟨admitted, rfl⟩
      · rintro ⟨admitted, rfl⟩
        exact ⟨s, _, rfl, ⟨admitted, rfl⟩, rfl⟩
    | param k =>
      have captures := capturing.head
      rw [Token.keys_param captures] at oneSided takes ⊢
      rw [List.forall_mem_cons] at oneSided takes ⊢
      have later := ih simple.2 capturing.tail oneSided.2 takes.2
      obtain ⟨p, compiled, rfl⟩ := exists_of_partOf_param first
      have segment : k.fragment = o.segment :=
        Key.fragment_eq (by simpa [Token.key?] using simple.1) captures
      have written : ∀ s, b.part data (.param k, some p) = .ok s ↔
          k.Admits o (data.get? k.name.text) ∧
            s = k.piece ((data.get? k.name.text).map (k.run o.encode)) := by
        intro s
        rw [Builder.part, if_pos captures]
        exact param_eq_ok_iff under segment compiled oneSided.1 takes.1
      rw [exists_flatten_cons_iff, List.map_cons, Token.layout]
      simp only [written, later]
      constructor
      · rintro ⟨_, _, ⟨admitted, rfl⟩, ⟨admitted', rfl⟩, rfl⟩
        exact ⟨⟨admitted, admitted'⟩, rfl⟩
      · rintro ⟨⟨admitted, admitted'⟩, rfl⟩
        exact ⟨_, _, ⟨admitted, rfl⟩, ⟨admitted', rfl⟩, rfl⟩

/-- What a builder writes for parameters that fit its tokens. -/
theorem Of.build_eq_ok_iff {ts : List Token} (compiled : b.Of o ts)
    (simple : Token.simple o ts = true) (capturing : Token.Capturing ts)
    (oneSided : ∀ k ∈ Token.keys ts, k.OneSided)
    (takes : ∀ k ∈ Token.keys ts, ∀ v ∈ data.get? k.name.text, k.Takes v) {path : Text} :
    b.build data = .ok path ↔
      (∀ k ∈ Token.keys ts, k.Admits o (data.get? k.name.text)) ∧
        path = Token.layout ts
          ((Token.keys ts).map fun k => (data.get? k.name.text).map (k.run o.encode)) := by
  rw [← parts_eq_ok_iff ⟨compiled.encode, compiled.validate⟩ simple capturing oneSided takes
    compiled.parts path]
  simp only [build, bind_eq_ok_iff, mapM_eq_ok_iff, Except.ok.injEq]

end Builder

end RoutePattern
