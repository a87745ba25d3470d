import RoutePattern.Proofs.Builder

/-! # Values and the runs that stand for them

The run of a repeated parameter is its values with the separator between them. Splitting the run finds
the values again where the separator holds a delimiter, as no value does (`value_run`), and whatever the
values are, they make the run again (`run_value`), which is what a builder without checks writes for them
(`exists_pieces_of_run`).
-/

namespace RoutePattern.Key

variable {o : Options} {k : Key} {raw : Text}

/-- A separator tells where the values of a parameter that repeats end. -/
def Divided (o : Options) (k : Key) : Prop :=
  k.repeats = true → k.separator ≠ [] → ∃ c ∈ k.separator, c ∈ o.delimiter

instance (o : Options) (k : Key) : Decidable (k.Divided o) :=
  haveI := List.decidableBEx (· ∈ o.delimiter) k.separator
  inferInstanceAs (Decidable (k.repeats = true → k.separator ≠ [] → ∃ c ∈ k.separator, c ∈ o.delimiter))

theorem OneSided.separator_eq (oneSided : k.OneSided) (repeats : k.repeats = true) :
    k.trail ++ k.lead = k.separator := by
  rw [separator]
  rcases oneSided repeats with lead | trail
  · simp [lead]
  · simp [trail]

/-! ## Runs -/

theorem intercalate_cons (separator first : Text) (parts : List Text) :
    separator.intercalate (first :: parts) =
      first ++ (parts.map fun v => separator ++ v).flatten := by
  induction parts generalizing first with
  | nil => simp
  | cons v parts ih => rw [List.intercalate_cons_cons, ih, List.map_cons]; simp

/-- Values with the separator between them are a run. -/
theorem intercalate_mem_runs (oneSided : k.OneSided) (repeats : k.repeats = true)
    {parts : List Text} (nonempty : parts ≠ []) (each : ∀ v ∈ parts, v ∈ o.values) :
    k.separator.intercalate parts ∈ k.runs o := by
  obtain ⟨first, parts, rfl⟩ := List.exists_cons_of_ne_nil nonempty
  rw [List.forall_mem_cons] at each
  rw [runs, if_pos repeats, intercalate_cons]
  refine Language.append_mem_mul each.1 (Language.join_mem_kstar fun y member => ?_)
  obtain ⟨v, listed, rfl⟩ := List.mem_map.1 member
  rw [← oneSided.separator_eq repeats]
  exact Language.append_mem_mul
    (Language.append_mem_mul (o.mem_spelling_self k.trail) (o.mem_spelling_self k.lead))
    (each.2 v listed)

/-- Where letters match in their own case only, every run is values with the separator between them. -/
theorem exists_parts_of_mem_runs (exact : o.sensitive = true) (oneSided : k.OneSided)
    (repeats : k.repeats = true) (member : raw ∈ k.runs o) :
    ∃ parts, parts ≠ [] ∧ (∀ v ∈ parts, v ∈ o.values) ∧ raw = k.separator.intercalate parts := by
  rw [runs, if_pos repeats] at member
  obtain ⟨first, value, rest, inside, rfl⟩ := Language.mem_mul.1 member
  obtain ⟨further, rfl, each⟩ := Language.mem_kstar.1 inside
  -- What follows the first value is, time after time, the separator and another value.
  obtain ⟨parts, listed, rfl⟩ : ∃ parts : List Text, (∀ v ∈ parts, v ∈ o.values) ∧
      further = parts.map fun v => k.separator ++ v := by
    clear member inside
    induction further with
    | nil => exact ⟨[], by simp, rfl⟩
    | cons y further ih =>
      rw [List.forall_mem_cons] at each
      obtain ⟨parts, listed, rfl⟩ := ih each.2
      obtain ⟨_, turn, v, here, rfl⟩ := Language.mem_mul.1 each.1
      obtain ⟨l, trail, r, lead, rfl⟩ := Language.mem_mul.1 turn
      obtain rfl := (Options.mem_spelling_of_sensitive exact).1 trail
      obtain rfl := (Options.mem_spelling_of_sensitive exact).1 lead
      refine ⟨v :: parts, List.forall_mem_cons.2 ⟨here, listed⟩, ?_⟩
      rw [oneSided.separator_eq repeats, List.map_cons]
  exact ⟨first :: parts, List.cons_ne_nil first parts, List.forall_mem_cons.2 ⟨value, listed⟩,
    (intercalate_cons k.separator first parts).symm⟩

/-! ## Values -/

/-- Every character of a run lies in one of its parts, if there is no separator. -/
theorem parts_of_bare {parts : List Text} (each : ∀ v ∈ parts, v ∈ o.values) :
    ∀ v ∈ Text.splitRun [] (([] : Text).intercalate parts), v ∈ o.values := by
  intro v member
  rw [Text.nil_intercalate, Text.splitRun] at member
  obtain ⟨c, inside, rfl⟩ := List.mem_map.1 member
  obtain ⟨part, listed, within⟩ := List.mem_flatten.1 inside
  refine Options.mem_values.2 ⟨List.cons_ne_nil c [], List.forall_mem_singleton.2 ?_⟩
  exact (Options.mem_values.1 (each part listed)).2 c within

/-- The parts of values that the separator of a parameter keeps apart. -/
theorem splitRun_separator {parts : List Text} (nonempty : parts ≠ [])
    (each : ∀ v ∈ parts, v ∈ o.values) (marked : ∃ c ∈ k.separator, c ∈ o.delimiter) :
    Text.splitRun k.separator (k.separator.intercalate parts) = parts := by
  obtain ⟨c, member, delimiter⟩ := marked
  have clear : ∀ v ∈ parts, ∀ d ∈ v, ¬o.delimits d := fun v listed =>
    (Options.mem_values.1 (each v listed)).2
  exact Text.splitRun_intercalate nonempty clear ⟨c, member, c, delimiter, .inl rfl⟩

/-- The values that a run gives pass the check. -/
theorem parts_value (exact : o.sensitive = true) (oneSided : k.OneSided) (divided : k.Divided o)
    (member : raw ∈ k.runs o) : ∀ v ∈ (k.value .identity raw).parts, v ∈ o.values := by
  unfold Key.value
  cases repeats : k.repeats with
  | false =>
    simp only [runs, repeats, Bool.false_eq_true, if_false] at member ⊢
    exact List.forall_mem_singleton.2 member
  | true =>
    obtain ⟨parts, nonempty, each, rfl⟩ := exists_parts_of_mem_runs exact oneSided repeats member
    have decoded : Codec.identity.decode = id := rfl
    simp only [if_true, Value.parts, decoded, List.map_id]
    by_cases bare : k.separator = []
    · -- The run is split into its characters, none of which is a delimiter.
      rw [bare]
      exact parts_of_bare each
    · rw [splitRun_separator nonempty each (divided repeats bare)]
      exact each

theorem takes_value (decode : Codec) (nonempty : raw ≠ []) : k.Takes (k.value decode raw) := by
  unfold Key.value
  cases repeats : k.repeats with
  | false => exact repeats
  | true =>
    refine ⟨repeats, ?_⟩
    rw [ne_eq, List.map_eq_nil_iff]
    cases k.separator with
    | nil => simpa [Text.splitRun] using nonempty
    | cons c s => exact Text.splitOn_ne_nil c s raw

/-- The values of a run make the run again. -/
theorem run_value (k : Key) (raw : Text) : k.run .identity (k.value .identity raw) = raw := by
  have coded : Codec.identity.encode = id ∧ Codec.identity.decode = id := ⟨rfl, rfl⟩
  unfold Key.value
  split
  · simp only [run, coded, List.map_id]
    exact Text.intercalate_splitRun k.separator raw
  · rfl

/-- A run of values that pass the check. -/
theorem run_mem_runs {encode : Codec} {v : Value} (oneSided : k.OneSided) (takes : k.Takes v)
    (passed : ∀ t ∈ v.parts, encode.encode t ∈ o.values) : k.run encode v ∈ k.runs o := by
  cases v with
  | single t =>
    have once : k.repeats = false := takes
    rw [runs, once]
    exact passed t (List.mem_singleton_self t)
  | repeated ts =>
    refine intercalate_mem_runs oneSided takes.1 (by simpa using takes.2) fun v member => ?_
    obtain ⟨t, listed, rfl⟩ := List.mem_map.1 member
    exact passed t listed

/-- The run of a value gives the value again. -/
theorem value_run {encode decode : Codec} {v : Value} (takes : k.Takes v)
    (passed : ∀ t ∈ v.parts, encode.encode t ∈ o.values)
    (marked : k.repeats = true → ∃ c ∈ k.separator, c ∈ o.delimiter)
    (inverse : ∀ t ∈ v.parts, decode.decode (encode.encode t) = t) :
    k.value decode (k.run encode v) = v := by
  cases v with
  | single t =>
    have once : k.repeats = false := takes
    simp only [Key.value, once, Bool.false_eq_true, if_false, run]
    rw [inverse t (List.mem_singleton_self t)]
  | repeated ts =>
    have each : ∀ v ∈ ts.map encode.encode, v ∈ o.values := by
      intro v member
      obtain ⟨t, listed, rfl⟩ := List.mem_map.1 member
      exact passed t listed
    simp only [Key.value, takes.1, if_true, run]
    rw [splitRun_separator (by simpa using takes.2) each (marked takes.1), List.map_map]
    congr 1
    exact (List.map_congr_left fun t listed => inverse t listed).trans (List.map_id ts)

/-! ## Splitting and building -/

/-- Without checks and codecs, each value is written between the texts around it. -/
theorem mapM_piece_unchecked {b : Builder} (asWritten : b.encode = .identity)
    (unchecked : b.validate = false) (validator : Option Program) (parts : List Text) :
    parts.mapM (b.piece k validator) = .ok (parts.map fun v => k.lead ++ v ++ k.trail) := by
  have each : b.piece k validator = fun v => pure (k.lead ++ v ++ k.trail) := by
    funext v
    simp only [Builder.piece, Builder.segment, asWritten, unchecked, Bool.false_and, Bool.false_eq_true,
      if_false]
    rfl
  rw [each]
  exact List.mapM_pure

theorem param_unchecked {b : Builder} (asWritten : b.encode = .identity)
    (unchecked : b.validate = false) (repeats : k.repeats = true) (validator : Option Program)
    {parts : List Text} (nonempty : parts ≠ []) :
    b.param k validator (some (.repeated parts)) =
      .ok (parts.map fun v => k.lead ++ v ++ k.trail).flatten := by
  obtain ⟨first, parts, rfl⟩ := List.exists_cons_of_ne_nil nonempty
  simp only [Builder.param, repeats, Bool.not_true, Bool.false_eq_true, if_false,
    mapM_piece_unchecked asWritten unchecked validator]
  rfl

/-- The pieces that a run of a repeated parameter is split into are built to the run again. -/
theorem exists_pieces_of_run (repeats : k.repeats = true) (oneSided : k.lead = [] ∨ k.trail = [])
    (filled : raw ≠ []) :
    ∃ pieces, k.value .identity raw = .repeated pieces ∧
      pieces = Text.splitRun (k.lead ++ k.trail) raw ∧
      (pieces.map fun v => k.lead ++ v ++ k.trail).flatten = k.lead ++ raw ++ k.trail ∧
      (∀ (b : Builder) (validator : Option Program), b.encode = .identity → b.validate = false →
        b.param k validator (some (.repeated pieces)) = .ok (k.lead ++ raw ++ k.trail)) ∧
      (k.lead ++ k.trail ≠ [] → ∀ v ∈ pieces, ¬k.lead ++ k.trail <:+: v) ∧
      (k.lead ++ k.trail = [] → ∀ v ∈ pieces, ∃ c, v = [c]) := by
  have value : k.value .identity raw = .repeated (Text.splitRun k.separator raw) := by
    have coded : Codec.identity.decode = id := rfl
    rw [Key.value, if_pos repeats, coded, List.map_id]
  have nonempty : Text.splitRun k.separator raw ≠ [] := by
    have takes := takes_value .identity filled (k := k)
    rw [value] at takes
    exact takes.2
  have written := Text.flatten_between oneSided nonempty
  rw [← separator, Text.intercalate_splitRun] at written
  refine ⟨_, value, rfl, written, fun b validator asWritten unchecked => ?_,
    fun divided v member => Text.not_infix_of_mem_splitRun divided member, fun bare v member => ?_⟩
  · rw [param_unchecked asWritten unchecked repeats validator nonempty, written]
  · rw [separator, bare, Text.splitRun] at member
    obtain ⟨c, -, rfl⟩ := List.mem_map.1 member
    exact ⟨c, rfl⟩

/-- A separator that overlaps itself. -/
theorem exists_pieces_of_run_overlapping : ∃ k : Key, k.repeats = true ∧ k.trail = [] ∧
    k.value .identity "é...b".toList = .repeated ["é".toList, ".b".toList] ∧
    ∀ (b : Builder) (validator : Option Program), b.encode = .identity → b.validate = false →
      b.param k validator (some (.repeated ["é".toList, ".b".toList])) = .ok "..é...b".toList := by
  let k : Key := ⟨.named ['a'], "..".toList, [], "[^/]+".toList, some .oneOrMore⟩
  obtain ⟨pieces, value, split, -, built, -⟩ :=
    @exists_pieces_of_run k "é...b".toList rfl (.inr rfl) (by decide)
  have evaluated : Text.splitRun "..".toList "é...b".toList = ["é".toList, ".b".toList] := by
    decide +kernel
  obtain rfl : pieces = ["é".toList, ".b".toList] := split.trans evaluated
  exact ⟨k, rfl, rfl, value, built⟩

end RoutePattern.Key
