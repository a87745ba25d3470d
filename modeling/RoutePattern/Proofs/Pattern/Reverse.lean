import RoutePattern.Proofs.Pattern.Compiled
import RoutePattern.Proofs.Token.Portable
import RoutePattern.Proofs.Token.Prefixed

/-! # Built paths are matched

A pattern that checks its values matches every path that it builds, under any options and from any
parameters, if its fragments mean the same wherever they stand (`isSome_match?_of_build`).
-/

namespace RoutePattern

open RoutePattern.Expr (anchor ofParts)
open Expr.Reader (Adds Reads)

variable {o : Options} {k : Key} {ts : List Token} {p : Program}

/-! ## Values that pass their checks -/

namespace Key

/-- What the check of a parameter is read as. -/
def validatorParts (o : Options) (k : Key) : List Expr :=
  [anchor .textStart] ++ k.valueParts o ++ [anchor .textEnd]

theorem StandsAlone.program_validator (alone : k.StandsAlone o)
    (compiled : Program.ofSource o k.validatorSource = .ok p) :
    Program.ofNotated? ⟨ofParts (k.validatorParts o), 0, []⟩ = some p := by
  obtain ⟨n, read, program⟩ := Program.exists_of_ofSource compiled
  have adds : ∀ size, Adds size o.relaxed 0 0 k.validatorSource (k.validatorParts o) 0 := by
    intro size
    have start : Adds size o.relaxed 0 0 ['^'] [anchor .textStart] 0 := Reads.textStart.adds
    exact (start.append alone.adds_value).append Reads.textEnd.adds
  obtain rfl := o.eq_of_read?_adds adds read
  exact program

theorem ofParts_valueParts (o : Options) (k : Key) :
    ofParts (k.valueParts o) = (k.fragmentExpr o).wrapped := by
  unfold valueParts Expr.Reader.addPart
  split
  · next nothing => rw [eq_of_beq nothing, ofParts]
  · rfl

theorem Portable.needsSearch_validator (portable : k.Portable o) :
    (ofParts (k.validatorParts o)).needsSearch [] = false := by
  have value : (ofParts (k.valueParts o)).needsSearch [] = false := by
    rw [ofParts_valueParts]
    exact Expr.needsSearch_of_anchorless
      ((Expr.isAnchorless_wrapped _).trans portable.anchorless)
  rw [Expr.needsSearch_ofParts] at value ⊢
  rw [validatorParts, List.any_append, List.any_append, value]
  rfl

/-- A check that compiles has a fragment whose ranges are ranges. -/
theorem Portable.isPortable (portable : k.Portable o)
    (compiled : Program.ofSource o k.validatorSource = .ok p) :
    (k.fragmentExpr o).isPortable = true := by
  have program := portable.alone.program_validator compiled
  simp only [Program.ofNotated?, portable.needsSearch_validator, Bool.false_eq_true, if_false,
    Option.ite_none_right_eq_some] at program
  have ordered := Expr.ordered_of_settleable program.1
  rw [Expr.ordered_ofParts, validatorParts, List.all_append, List.all_append,
    ← Expr.ordered_ofParts (k.valueParts o), ofParts_valueParts, Expr.ordered_wrapped] at ordered
  exact Expr.isPortable_iff.2 ⟨portable.anchorless, by simpa [Expr.ordered] using ordered⟩

/-- A value that passes the check is matched by the fragment. -/
theorem Portable.mem_language (portable : k.Portable o)
    (compiled : Program.ofSource o k.validatorSource = .ok p) {v : Text}
    (accepted : p.accepts v = true) : v ∈ (k.fragmentExpr o).language := by
  obtain ⟨found, answer⟩ := Option.isSome_iff_exists.1 accepted
  obtain ⟨on, leads⟩ := Program.leads_of_find? portable.needsSearch_validator
    (portable.alone.program_validator compiled) answer
  rw [validatorParts, Expr.leads_ofParts_append] at leads
  obtain ⟨r, leads, last⟩ := leads
  obtain ⟨r', first, inside⟩ := Expr.leads_ofParts_append.1 leads
  -- The value stands between the start of the text and its end.
  obtain ⟨start, rfl⟩ : found.start.before.isEmpty = true ∧ r' = found.start := first
  obtain ⟨finish, -⟩ : r.after.isEmpty = true ∧ _ = r := last
  rw [ofParts_valueParts, Expr.leads_iff_language
    ((Expr.isAnchorless_wrapped _).trans portable.anchorless), Expr.language_wrapped] at inside
  obtain ⟨m, member, passed⟩ := inside
  obtain ⟨rest, after, rfl⟩ := Place.pass?_eq_some.1 passed
  have finish : rest = [] := List.isEmpty_iff.1 finish
  have whole : v = m := by
    rw [← on.text, after, List.isEmpty_iff.1 start, finish]
    simp
  exact whole ▸ member

theorem nil_mem_told (optional : k.isOptional = true) : [] ∈ k.told o := by
  refine ⟨0, ?_, (Language.mem_one _).2 rfl⟩
  cases modifier : k.modifier with
  | none => simp [isOptional, modifier] at optional
  | some m => cases m <;> simp_all [isOptional, Modifier.mayBeAbsent, Modifier.allows]

theorem mem_told_of_once {s : Text} (once : s ∈ k.toldOnce o) : s ∈ k.told o := by
  refine ⟨1, ?_, by rwa [pow_one]⟩
  cases k.modifier with
  | none => rfl
  | some m => cases m <;> simp [Modifier.allows]

theorem flatten_mem_told (repeats : k.repeats = true) {ss : List Text} (filled : ss ≠ [])
    (each : ∀ s ∈ ss, s ∈ k.toldOnce o) : ss.flatten ∈ k.told o := by
  have least : 1 ≤ ss.length := List.length_pos_iff.2 filled
  refine ⟨ss.length, ?_, Language.mem_pow.2 ⟨ss, rfl, rfl, each⟩⟩
  rcases modifier_of_repeats repeats with ⟨modifier, -⟩ | ⟨modifier, -⟩ <;>
    simp [modifier, Modifier.allows, least]

end Key

/-! ## Pieces of a path -/

namespace Builder

variable {b : Builder} {data : Params} {path s : Text}

theorem mem_told_of_piece (portable : k.Portable o) (captures : k.captures = true)
    (compiled : Program.ofSource o k.validatorSource = .ok p) (validate : b.validate = true) {v : Text}
    (written : b.piece k (some p) v = .ok s) : s ∈ k.toldOnce o := by
  obtain ⟨encoded, checked, same⟩ := bind_eq_ok_iff.1 written
  obtain rfl := Except.ok.inj same
  have passes : encoded ∈ (k.fragmentExpr o).language := by
    simp only [Builder.segment, validate, Option.all_some, Bool.true_and] at checked
    split at checked
    · cases checked
    · next accepted =>
      obtain rfl := Except.ok.inj checked
      exact portable.mem_language compiled (by simpa using accepted)
  rw [Key.toldOnce, if_pos captures]
  exact Language.append_mem_mul (Language.append_mem_mul (o.mem_spelling_self _) passes)
    (o.mem_spelling_self _)

theorem mem_told_of_param (portable : k.Portable o) (captures : k.captures = true)
    (compiled : Program.ofSource o k.validatorSource = .ok p) (validate : b.validate = true)
    {value : Option Value} (written : b.param k (some p) value = .ok s) : s ∈ k.told o := by
  match value with
  | none =>
    simp only [Builder.param] at written
    split at written
    · next optional =>
      obtain rfl := Except.ok.inj written
      exact Key.nil_mem_told optional
    · cases written
  | some (.single v) =>
    exact Key.mem_told_of_once (mem_told_of_piece portable captures compiled validate written)
  | some (.repeated []) =>
    simp only [Builder.param] at written
    split at written
    · cases written
    · split at written
      · next optional =>
        obtain rfl := Except.ok.inj written
        exact Key.nil_mem_told optional
      · cases written
  | some (.repeated (v :: vs)) =>
    simp only [Builder.param] at written
    split at written
    · cases written
    · next repeats =>
      obtain ⟨ss, pieces, same⟩ := bind_eq_ok_iff.1 written
      obtain rfl := Except.ok.inj same
      rw [mapM_eq_ok_iff] at pieces
      refine Key.flatten_mem_told (by simpa using repeats) ?_ fun s member => ?_
      · rintro rfl
        cases pieces
      · obtain ⟨_, -, made⟩ := exists_related pieces.flip member
        exact mem_told_of_piece portable captures compiled validate made

theorem mem_told_of_part {t : Token} (portable : ∀ k ∈ Token.keys [t], k.Portable o)
    (validate : b.validate = true) {part : Token × Option Program} (made : partOf o t = .ok part)
    (written : b.part data part = .ok s) : s ∈ t.told o := by
  cases t with
  | text t =>
    obtain rfl := Except.ok.inj made
    obtain rfl := Except.ok.inj written
    exact o.mem_spelling_self _
  | param k =>
    obtain ⟨p, compiled, rfl⟩ := exists_of_partOf_param made
    cases captures : k.captures with
    | true =>
      rw [Token.keys_param captures, List.forall_mem_cons] at portable
      rw [Builder.part, if_pos captures] at written
      exact mem_told_of_param portable.1 captures compiled validate written
    | false =>
      rw [Builder.part, captures, if_neg Bool.false_ne_true] at written
      obtain rfl := Except.ok.inj written
      split
      · next optional => exact Key.nil_mem_told optional
      · refine Key.mem_told_of_once ?_
        rw [Key.toldOnce, captures, if_neg Bool.false_ne_true, mul_one]
        exact Language.append_mem_mul (o.mem_spelling_self _) (o.mem_spelling_self _)

/-- What a builder writes divides into pieces for the tokens. -/
theorem Of.mem_toldOf (of : b.Of o ts) (portable : ∀ k ∈ Token.keys ts, k.Portable o)
    (validate : o.validate = true) (built : b.build data = .ok path) : path ∈ Token.toldOf o ts := by
  obtain ⟨pieces, written, same⟩ := bind_eq_ok_iff.1 built
  obtain rfl := Except.ok.inj same
  rw [mapM_eq_ok_iff] at written
  have parts := of.parts
  have validate : b.validate = true := of.validate.trans validate
  clear built of same
  generalize b.parts = made at parts written
  induction parts generalizing pieces with
  | nil =>
    cases written
    exact (Language.mem_one _).2 rfl
  | @cons t part ts made first _ ih =>
    obtain ⟨piece, later, here, others, rfl⟩ := List.forall₂_cons_left_iff.1 written
    rw [← List.singleton_append, Token.keys_append, List.forall_mem_append] at portable
    rw [Token.toldOf, List.map_cons, List.prod_cons, List.flatten_cons]
    exact Language.append_mem_mul (mem_told_of_part portable.1 validate first here)
      (ih portable.2 later others)

theorem Of.prefix_build {t : Text} (of : b.Of o (.text t :: ts)) (built : b.build data = .ok path) :
    t <+: path := by
  obtain ⟨pieces, written, same⟩ := bind_eq_ok_iff.1 built
  obtain rfl := Except.ok.inj same
  rw [mapM_eq_ok_iff] at written
  obtain ⟨part, made, first, -, parts⟩ := List.forall₂_cons_left_iff.1 of.parts
  rw [parts] at written
  obtain ⟨piece, later, here, -, rfl⟩ := List.forall₂_cons_left_iff.1 written
  obtain rfl := Except.ok.inj first
  obtain rfl := Except.ok.inj here
  exact List.prefix_append _ _

/-- The check of each parameter compiles. -/
theorem Of.exists_validator (of : b.Of o ts) (member : k ∈ Token.keys ts) :
    ∃ p, Program.ofSource o k.validatorSource = .ok p := by
  obtain ⟨part, -, made⟩ := exists_related of.parts (Token.mem_keys.1 member).1
  obtain ⟨p, compiled, -⟩ := bind_eq_ok_iff.1 made
  exact ⟨p, compiled⟩

end Builder

/-! ## What is built is matched -/

namespace Pattern

variable {text path : Text} {data : Params} {p : Pattern}

/-- Matching decodes after the match and building encodes before the check, so neither codec counts. -/
theorem Of.isSome_match?_of_build {decode encode : Codec}
    (of : p.Of { o with encode := .identity, decode } { o with encode } ts)
    (portable : ∀ k ∈ Token.keys ts, k.Portable o) (validate : o.validate = true)
    (built : p.build data = .ok path)
    (finished : o.anchoredEnd = false ∨ o.endsWith ≠ [] → p.matcher.program.search path ≠ .gaveUp) :
    (p.match? path).isSome = true := by
  let matching : Options := { o with encode := .identity, decode }
  let building : Options := { o with encode }
  have checked : ∀ k ∈ Token.keys ts, k.Portable building :=
    fun k member => ⟨(portable k member).alone, (portable k member).anchorless⟩
  have sound : ∀ k ∈ Token.keys ts, (k.fragmentExpr matching).isPortable = true := by
    intro k member
    obtain ⟨v, compiled⟩ := of.builder.exists_validator member
    exact (checked k member).isPortable compiled
  have told : path ∈ Token.toldOf building ts := of.builder.mem_toldOf checked validate built
  rw [match?, Matcher.match?, Option.isSome_map]
  have asWritten : matching.encode = .identity := rfl
  exact Token.isSome_find?_of_told asWritten (fun k member => (portable k member).alone) sound
    of.matcher.program told finished

/-- A pattern of URL paths without fragments matches what it builds, unless the search for it is given
up. That is possible only where something may follow the match or the match may end before the path
does. -/
theorem isSome_match?_of_build (plain : Lexeme.withoutFragments text = true)
    (compiled : forUrl o text = .ok p) (validate : o.validate = true)
    (built : p.build data = .ok path)
    (finished : o.anchoredEnd = false ∨ o.endsWith ≠ [] → p.matcher.program.search path ≠ .gaveUp) :
    (p.match? path).isSome = true := by
  obtain ⟨ts, of, simple, -⟩ := forUrl_of plain compiled
  refine of.isSome_match?_of_build (fun k member => ?_) validate built finished
  obtain ⟨listed, captures⟩ := Token.mem_keys.1 member
  exact Key.portable_of_segment (Key.fragment_eq (List.all_eq_true.1 simple _ listed) captures)

/-- A pattern that checks its values matches what it builds, if each of its fragments keeps within its
brackets and asks for nothing around it. -/
theorem exists_match?_of_build (compiled : ofText o text = .ok p) (asWritten : o.encode = .identity)
    (validate : o.validate = true)
    (portable : ∀ k ∈ p.keys, k.fragment ≠ o.segment →
      k.Confined o ∧ (k.fragmentExpr o).isAnchorless = true)
    (built : p.build data = .ok path)
    (finished : o.anchoredEnd = false ∨ o.endsWith ≠ [] → p.matcher.program.search path ≠ .gaveUp) :
    ∃ r, p.match? path = some r := by
  obtain ⟨ts, tokens, made⟩ := bind_eq_ok_iff.1 compiled
  have of := ofTokens_of made
  have listed : ∀ {k}, k ∈ Token.keys ts → k ∈ p.keys := fun member => of.keys ▸ member
  have alone : ∀ k ∈ Token.keys ts, k.StandsAlone o :=
    Token.standsAlone_of_confined tokens fun k member own => (portable k (listed member) own).1
  have same : o = { o with encode := .identity, decode := o.decode } := by
    rw [← asWritten]
  have each : ∀ k ∈ Token.keys ts, k.Portable o := by
    intro k member
    by_cases segment : k.fragment = o.segment
    · exact Key.portable_of_segment segment
    · exact ⟨alone k member, (portable k (listed member) segment).2⟩
  have of' : p.Of { o with encode := .identity, decode := o.decode } { o with encode := o.encode } ts :=
    ⟨same ▸ of.matcher, of.builder⟩
  exact Option.isSome_iff_exists.1 (of'.isSome_match?_of_build each validate built finished)

/-- A fragment with a group inside it, whose value must have the right form. -/
theorem exists_match?_of_build_dated : ∃ p data r,
    ofText {} "/:year(\\d+)/:slug([a-z]+(?:-[a-z]+)*)".toList = .ok p ∧
      p.build data = .ok "/2024/on-routes".toList ∧ p.match? "/2024/on-routes".toList = some r := by
  let data : Params :=
    ⟨[(.named "year".toList, .single "2024".toList),
      (.named "slug".toList, .single "on-routes".toList)]⟩
  have evaluated : (ofText {} "/:year(\\d+)/:slug([a-z]+(?:-[a-z]+)*)".toList).toOption.map (fun p =>
      (p.keys.all fun k => decide (k.Confined {}) && (k.fragmentExpr {}).isAnchorless,
        (p.build data).toOption)) = some (true, some "/2024/on-routes".toList) := by decide +kernel
  obtain ⟨p, found, same⟩ := Option.map_eq_some_iff.1 evaluated
  obtain ⟨portable, written⟩ := Prod.mk.inj same
  have compiled := eq_ok_of_toOption found
  have built := eq_ok_of_toOption written
  have each : ∀ k ∈ p.keys, k.fragment ≠ Options.segment {} →
      k.Confined {} ∧ (k.fragmentExpr {}).isAnchorless = true := by
    intro k member _
    have both := List.all_eq_true.1 portable k member
    rwa [Bool.and_eq_true, decide_eq_true_eq] at both
  obtain ⟨r, answer⟩ := exists_match?_of_build compiled rfl rfl each built (by simp)
  exact ⟨p, data, r, compiled, built, answer⟩

/-- A fragment that asks for the end of the text finds it after the value alone, but not in the path. -/
theorem exists_build_of_match?_none : ∃ p data,
    ofText {} "/(a$)/b".toList = .ok p ∧ p.build data = .ok "/a/b".toList ∧
      p.match? "/a/b".toList = none := by
  let data : Params := ⟨[(.ordinal 0, .single "a".toList)]⟩
  have evaluated : (ofText {} "/(a$)/b".toList).toOption.map (fun p =>
      ((p.build data).toOption, p.match? "/a/b".toList)) = some (some "/a/b".toList, none) := by
    decide +kernel
  obtain ⟨p, found, same⟩ := Option.map_eq_some_iff.1 evaluated
  obtain ⟨written, answer⟩ := Prod.mk.inj same
  exact ⟨p, data, eq_ok_of_toOption found, eq_ok_of_toOption written, answer⟩

end Pattern

end RoutePattern
