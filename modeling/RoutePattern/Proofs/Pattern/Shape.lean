import RoutePattern.Proofs.Params.Order
import RoutePattern.Proofs.Token.Canonical
import RoutePattern.Proofs.Value

/-! # What a match gives and a builder takes

The parameters of a match are values of some of the keys, in the order of the keys, and each is of the
kind that its key takes (`Matcher.Of.suits`). Where no name answers to the text of another one,
each key finds just what its group captured (`Matcher.Of.get?_of_match?`). From values of their kinds a
path can fail to be built only because one is refused or one is missing (`Builder.build_eq_error`), so
building from a match fails for no other reason (`Pattern.suits_of_match?`).
-/

namespace RoutePattern

/-! ## Values for keys -/

namespace Params

/-- The parameters are values of some of the keys, in the order of the keys: a list that is not empty for
a key that repeats, and a single value for any other one. -/
def Suits (ks : List Key) (p : Params) : Prop :=
  ∃ captured, captured.Sublist ks ∧
    List.Forall₂ (fun k e => e.1 = k.name ∧ k.Takes e.2) captured p.entries

theorem Suits.nodup {ks : List Key} {p : Params} (suits : p.Suits ks)
    (distinct : (ks.map (·.name)).Nodup) : (p.entries.map (·.1)).Nodup := by
  obtain ⟨captured, some, each⟩ := suits
  have names : p.entries.map (·.1) = captured.map (·.name) := by
    refine List.forall₂_eq_eq_eq ▸ List.forall₂_map_left_iff.2 (List.forall₂_map_right_iff.2 ?_)
    exact each.flip.imp fun _ _ same => same.1
  rw [names]
  exact distinct.sublist (some.map _)

theorem suits_ofValues {ks : List Key} {vs : List (Option Value)}
    (takes : List.Forall₂ (fun k value => ∀ v ∈ value, k.Takes v) ks vs) : (ofValues ks vs).Suits ks := by
  induction takes with
  | nil => exact ⟨[], .slnil, .nil⟩
  | @cons k value ks vs here _ ih =>
    obtain ⟨captured, some, each⟩ := ih
    cases value with
    | none => exact ⟨captured, some.cons k, each⟩
    | some v => exact ⟨k :: captured, some.cons_cons k, .cons ⟨rfl, here v rfl⟩ each⟩

end Params

namespace Key

variable {o : Options} {k : Key}

theorem takes_valuesOf (decode : Codec) (t : Thread) (group : Nat) (ks : List Key) :
    List.Forall₂ (fun k value => ∀ v ∈ value, k.Takes v) ks
      (valuesOf decode ks (t.raws group ks.length)) := by
  induction ks generalizing group with
  | nil => exact .nil
  | cons k ks ih =>
    refine .cons (fun v found => ?_) (ih (group + 1))
    obtain ⟨raw, held, rfl⟩ := Option.map_eq_some_iff.1 found
    exact takes_value decode (Thread.ne_nil_of_raw? held)

theorem isOptional_eq_false_iff :
    k.isOptional = false ↔ k.modifier = none ∨ k.modifier = some .oneOrMore := by
  rw [isOptional]
  cases k.modifier with
  | none => simp
  | some m => cases m <;> simp [Modifier.mayBeAbsent]

/-- The numbers of parameters fit where the length of the pattern does. -/
theorem fits_of_ofPattern? {text : Text} {ts : List Token} (read : Token.ofPattern? o text = .ok ts)
    (short : text.length < UInt64.size) (member : .param k ∈ ts) : k.name.fits = true := by
  cases name : k.name with
  | named n => rfl
  | ordinal n => simpa [Name.fits] using (Token.ordinal_lt read member name).trans short

end Key

/-! ## Matches -/

namespace Matcher

variable {o : Options} {ts : List Token} {m : Matcher} {path : Text} {found : Match}

theorem Of.suits (compiled : m.Of o ts) (distinct : ((Token.keys ts).map (·.name)).Nodup)
    (matched : m.match? path = some found) : found.params.Suits (Token.keys ts) := by
  rw [compiled.match?_eq distinct, Option.map_eq_some_iff] at matched
  obtain ⟨f, -, rfl⟩ := matched
  exact Params.suits_ofValues (Key.takes_valuesOf o.decode f.thread 0 _)

/-- Each key finds the value of what its group captured. -/
theorem Of.get?_of_match? (compiled : m.Of o ts)
    (own : ∀ k ∈ Token.keys ts, k.name.answersTo k.name.text = true) (apart : Key.AreApart (Token.keys ts))
    (matched : m.match? path = some found) :
    ∃ f, m.program.find? path = some f ∧ ∀ (i : Nat) k, (Token.keys ts)[i]? = some k →
      found.params.get? k.name.text = (f.thread.raw? (i + 1)).map (k.value o.decode) := by
  rw [compiled.match?_eq (apart.nodup own), Option.map_eq_some_iff] at matched
  obtain ⟨f, answer, rfl⟩ := matched
  refine ⟨f, answer, fun i k listed => ?_⟩
  have inside : i < (Token.keys ts).length := (List.getElem?_eq_some_iff.1 listed).1
  have values := Params.get?_ofValues_of_areApart own apart
    (Key.length_valuesOf o.decode (f.thread.length_raws 0 _))
  -- Both lists at the place of the key.
  have here := congrArg (·[i]?) values
  simpa [Key.valuesOf, List.getElem?_zipWith, f.thread.getElem?_raws inside, listed] using here

end Matcher

/-! ## Paths -/

namespace Builder

variable {b : Builder} {k : Key} {validator : Option Program} {data : Params} {e : BuildError}

theorem piece_eq_error {t : Text} (failed : b.piece k validator t = .error e) :
    ∃ segment, e = .invalidSegment k.name.text k.fragment segment := by
  simp only [piece, segment] at failed
  split at failed
  · exact ⟨_, (Except.error.inj failed).symm⟩
  · cases failed

/-- From a value that it takes a parameter fails only if it refuses one, or if it must have a value and
has none. -/
theorem param_eq_error {value : Option Value} (takes : ∀ v ∈ value, k.Takes v)
    (failed : b.param k validator value = .error e) :
    (∃ segment, e = .invalidSegment k.name.text k.fragment segment) ∨
      value = none ∧ k.isOptional = false ∧ e = .missing k.name.text k.repeats := by
  match value with
  | none =>
    simp only [param] at failed
    split at failed
    · cases failed
    · rename_i must
      exact .inr ⟨rfl, Bool.eq_false_of_not_eq_true must, (Except.error.inj failed).symm⟩
  | some (.single t) => exact .inl (piece_eq_error failed)
  | some (.repeated []) => exact absurd rfl (takes _ rfl).2
  | some (.repeated (t :: ts)) =>
    have repeats : k.repeats = true := (takes _ rfl).1
    simp only [param, repeats, Bool.not_true, Bool.false_eq_true, if_false, bind_ok_eq_error_iff] at failed
    obtain ⟨t', -, refused⟩ := exists_of_mapM_eq_error failed
    exact .inl (piece_eq_error refused)

/-- The same for all parameters. -/
theorem build_eq_error (takes : ∀ k ∈ Token.keys b.tokens, ∀ v ∈ data.get? k.name.text, k.Takes v)
    (failed : b.build data = .error e) :
    ∃ k ∈ Token.keys b.tokens, (∃ segment, e = .invalidSegment k.name.text k.fragment segment) ∨
      data.get? k.name.text = none ∧ k.isOptional = false ∧ e = .missing k.name.text k.repeats := by
  obtain ⟨⟨t, validator⟩, member, here⟩ := exists_of_mapM_eq_error (bind_ok_eq_error_iff.1 failed)
  cases t with
  | text t => cases here
  | param k =>
    simp only [part] at here
    split at here
    · rename_i captures
      have listed : k ∈ Token.keys b.tokens :=
        Token.mem_keys.2 ⟨List.mem_map_of_mem (f := Prod.fst) member, captures⟩
      exact ⟨k, listed, param_eq_error (takes k listed) here⟩
    · cases here

end Builder

namespace Pattern

variable {o : Options} {text : Text} {p : Pattern} {path : Text} {found : Match}

/-- Where no name answers to the text of another one, a match gives values of some of the keys, in their
order and of the kinds that they take. A path from these is never refused for the kind of a value. If one is
missing, it is that of a key that must have one and whose group captured nothing or an empty text. The text
of a pattern is shorter than `2 ^ 64`, so the numbers of its parameters are read as they are shown. -/
theorem suits_of_match? (compiled : ofText o text = .ok p) (short : text.length < UInt64.size)
    (apart : Key.AreApart p.keys) (matched : p.match? path = some found) :
    found.params.Suits p.keys ∧ (found.params.entries.map (·.1)).Nodup ∧
    (∀ name, p.build found.params ≠ .error (.unexpectedRepeat name) ∧
      p.build found.params ≠ .error (.emptyRepeat name)) ∧
    ∀ name repeats, p.build found.params = .error (.missing name repeats) →
      ∃ f i k, p.matcher.program.find? path = some f ∧ p.keys[i]? = some k ∧
        name = k.name.text ∧ repeats = k.repeats ∧
        (k.modifier = none ∨ k.modifier = some .oneOrMore) ∧
        (f.group? (i + 1) = none ∨ f.group? (i + 1) = some []) := by
  obtain ⟨ts, read, compiled⟩ := bind_eq_ok_iff.1 compiled
  have of := ofTokens_of compiled
  rw [of.keys] at apart ⊢
  have own : ∀ k ∈ Token.keys ts, k.name.answersTo k.name.text = true := fun k member =>
    Name.answersTo_text (Key.fits_of_ofPattern? read short (Token.mem_keys.1 member).1)
  -- Each name answers to its own text, so names that are apart are distinct.
  have suits := of.matcher.suits (apart.nodup own) matched
  obtain ⟨f, answer, finds⟩ := of.matcher.get?_of_match? own apart matched
  -- What a key finds is of its kind.
  have takes : ∀ k ∈ Token.keys p.builder.tokens, ∀ v ∈ found.params.get? k.name.text, k.Takes v := by
    intro k member v present
    rw [of.builder.tokens] at member
    obtain ⟨i, listed⟩ := List.getElem?_of_mem member
    rw [finds i k listed, Option.mem_def, Option.map_eq_some_iff] at present
    obtain ⟨raw, held, rfl⟩ := present
    exact Key.takes_value o.decode (Thread.ne_nil_of_raw? held)
  refine ⟨suits, suits.nodup (apart.nodup own), fun name => ⟨fun failed => ?_, fun failed => ?_⟩,
    fun name repeats failed => ?_⟩
  · obtain ⟨k, -, ⟨segment, other⟩ | ⟨-, -, other⟩⟩ := Builder.build_eq_error takes failed
    · cases other
    · cases other
  · obtain ⟨k, -, ⟨segment, other⟩ | ⟨-, -, other⟩⟩ := Builder.build_eq_error takes failed
    · cases other
    · cases other
  · obtain ⟨k, member, ⟨segment, other⟩ | ⟨none, must, same⟩⟩ := Builder.build_eq_error takes failed
    · cases other
    · obtain ⟨rfl, rfl⟩ := BuildError.missing.inj same
      -- A key that finds no value has a group that captured nothing or an empty text.
      rw [of.builder.tokens] at member
      obtain ⟨i, listed⟩ := List.getElem?_of_mem member
      rw [finds i k listed, Option.map_eq_none_iff, Thread.raw?_eq_none_iff] at none
      exact ⟨f, i, k, answer, listed, rfl, rfl, Key.isOptional_eq_false_iff.1 must, none⟩

/-- A fragment that matches the empty text, and a parameter that repeats. -/
theorem suits_of_match?_empty : ∃ p found f,
    ofText {} "/([a-z]*)/:tag(\\d+)+/:end?".toList = .ok p ∧
    p.match? "//1/2".toList = some found ∧ p.matcher.program.find? "//1/2".toList = some f ∧
    found.params.entries = [(.named "tag".toList, .repeated [['1'], ['2']])] ∧
    found.params.Suits p.keys ∧ p.build found.params = .error (.missing ['0'] false) ∧
    ∃ i k, p.keys[i]? = some k ∧ ['0'] = k.name.text ∧
      (f.group? (i + 1) = none ∨ f.group? (i + 1) = some []) := by
  let text := "/([a-z]*)/:tag(\\d+)+/:end?".toList
  let keys : List Key :=
    [⟨.ordinal 0, ['/'], [], "[a-z]*".toList, none⟩,
      ⟨.named "tag".toList, ['/'], [], "\\d+".toList, some .oneOrMore⟩,
      ⟨.named "end".toList, ['/'], [], "[^/#?]+?".toList, some .optional⟩]
  have evaluated : (ofText {} text).toOption.bind (fun p =>
      (p.match? "//1/2".toList).map fun found =>
        (p.keys, found.params.entries, p.build found.params)) =
      some (keys, [(.named "tag".toList, .repeated [['1'], ['2']])], .error (.missing ['0'] false)) := by
    decide +kernel
  obtain ⟨p, compiled, same⟩ := Option.bind_eq_some_iff.1 evaluated
  obtain ⟨found, matched, same⟩ := Option.map_eq_some_iff.1 same
  obtain ⟨listed, entries, missing⟩ : _ ∧ _ ∧ _ := by simpa only [Prod.mk.injEq] using same
  replace compiled := eq_ok_of_toOption compiled
  have apart : Key.AreApart p.keys := by rw [listed]; decide
  obtain ⟨suits, -, -, absent⟩ := suits_of_match? compiled (by decide) apart matched
  obtain ⟨f, i, k, answer, member, name, -, -, held⟩ := absent _ _ missing
  exact ⟨p, found, f, compiled, matched, answer, entries, suits, missing, i, k, member, name, held⟩

end Pattern

end RoutePattern
