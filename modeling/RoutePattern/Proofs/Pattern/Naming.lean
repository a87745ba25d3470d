import RoutePattern.Proofs.Pattern.Captures
import RoutePattern.Proofs.Text.Decimal

/-! # The entries that a path is built from

The text of a parameter's name leads to the entry under this name or to the one under its rival, the
name of the other kind with the same text (`Name.answersTo_text_iff`). So a parameter is built from the
entry under its own name unless its rival comes first (`Pattern.build_eq_buildWith`).
-/

namespace RoutePattern

/-! ## Names -/

namespace Name

/-- Numbers of parameters need no more than 64 bits. -/
def fits : Name → Bool
  | named _ => true
  | ordinal n => n < UInt64.size

/-- The other name that answers to the text of a name. -/
def rival? : Name → Option Name
  | named t => (Text.Decimal.read? t).map ordinal
  | ordinal n => some (named (Text.Decimal.write n))

variable {name other : Name}

theorem answersTo_text_iff (fits : name.fits = true) :
    other.answersTo name.text = true ↔ other = name ∨ name.rival? = some other := by
  cases name with
  | named t =>
    cases other with
    | named t' => simp [text, answersTo, rival?]
    | ordinal n => simp [text, answersTo, rival?]
  | ordinal n =>
    have fits : n < UInt64.size := by simpa [Name.fits] using fits
    cases other with
    | named t' =>
      simp only [text, answersTo, rival?, beq_iff_eq, reduceCtorEq, false_or, Option.some.injEq,
        named.injEq]
      exact eq_comm
    | ordinal n' =>
      simp only [text, answersTo, rival?, Text.Decimal.read?_write fits, beq_iff_eq,
        Option.some.injEq, ordinal.injEq, reduceCtorEq, or_false]
      exact eq_comm

theorem rival?_ne (name : Name) : name.rival? ≠ some name := by
  cases name <;> simp [rival?]

end Name

/-! ## Entries -/

namespace Params

variable {name n : Name} {v : Value} {entries : List (Name × Value)}

/-- The rival of a name comes before the name. -/
def isOvertaken (p : Params) (name : Name) : Bool :=
  name.rival?.any fun rival => (p.entries.takeWhile (·.1 != name)).any (·.1 == rival)

theorem isOvertaken_own : isOvertaken ⟨(name, v) :: entries⟩ name = false := by
  simp [isOvertaken]

theorem isOvertaken_rival (rival : name.rival? = some n) :
    isOvertaken ⟨(n, v) :: entries⟩ name = true := by
  have other : n ≠ name := by
    rintro rfl
    exact n.rival?_ne rival
  simp [isOvertaken, rival, other]

theorem isOvertaken_other (other : n ≠ name) (foreign : name.rival? ≠ some n) :
    isOvertaken ⟨(n, v) :: entries⟩ name = isOvertaken ⟨entries⟩ name := by
  cases rival : name.rival? with
  | none => simp [isOvertaken, rival]
  | some r =>
    have passed : n ≠ r := by
      rintro rfl
      exact foreign rival
    simp [isOvertaken, rival, other, passed]

theorem getNamed?_own : getNamed? ⟨(name, v) :: entries⟩ name = some v := by
  simp [getNamed?]

theorem getNamed?_other (other : n ≠ name) :
    getNamed? ⟨(n, v) :: entries⟩ name = getNamed? ⟨entries⟩ name := by
  simp [getNamed?, List.lookup_cons, beq_false_of_ne other.symm]

theorem isOvertaken_of_foreign {p : Params} (foreign : ∀ e ∈ p.entries, name.rival? ≠ some e.1) :
    p.isOvertaken name = false := by
  cases rival : name.rival? with
  | none => simp [isOvertaken, rival]
  | some r =>
    simp only [isOvertaken, rival, Option.any_some, List.any_eq_false, beq_iff_eq]
    rintro e member rfl
    exact foreign e ((List.takeWhile_sublist _).subset member) rival

/-- What the text of a name finds. -/
theorem get?_text (fits : name.fits = true) (p : Params) :
    p.get? name.text =
      if p.isOvertaken name then name.rival?.bind p.getNamed? else p.getNamed? name := by
  obtain ⟨entries⟩ := p
  induction entries with
  | nil => cases rival : name.rival? <;> simp [get?, getNamed?, isOvertaken, rival]
  | cons e entries ih =>
    obtain ⟨n, v⟩ := e
    have answers : n.answersTo name.text = true ↔ n = name ∨ name.rival? = some n :=
      Name.answersTo_text_iff fits
    by_cases own : n = name
    · subst own
      have found : n.answersTo n.text = true := answers.2 (.inl rfl)
      simp [get?, found, isOvertaken_own, getNamed?_own]
    · by_cases rival : name.rival? = some n
      · have found : n.answersTo name.text = true := answers.2 (.inr rival)
        simp [get?, found, isOvertaken_rival rival, rival, getNamed?_own]
      · have passed : n.answersTo name.text = false := by
          simpa [own, rival] using answers
        have later : name.rival?.bind (getNamed? ⟨(n, v) :: entries⟩) =
            name.rival?.bind (getNamed? ⟨entries⟩) := by
          cases found : name.rival? with
          | none => rfl
          | some r => exact getNamed?_other fun same => rival (same ▸ found)
        rw [isOvertaken_other own rival, getNamed?_other own, later, ← ih]
        simp [get?, passed]

end Params

/-! ## Paths -/

namespace Builder

/-- What a part adds to the path, where the values of the parameters are given. -/
def partWith (b : Builder) (value : Key → Option Value) :
    Token × Option Program → Except BuildError Text
  | (.text t, _) => .ok t
  | (.param k, validator) =>
    if k.captures then b.param k validator (value k)
    else .ok (if k.isOptional then [] else k.lead ++ k.trail)

/-- A path from the values of the parameters. -/
def buildWith (b : Builder) (value : Key → Option Value) : Except BuildError Text := do
  .ok (← b.parts.mapM (b.partWith value)).flatten

theorem build_eq (b : Builder) (data : Params) :
    b.build data = b.buildWith fun k => data.get? k.name.text := by
  have part : b.part data = b.partWith fun k => data.get? k.name.text := by
    funext ⟨t, validator⟩
    cases t <;> rfl
  rw [build, buildWith, part]

/-- Only the values of the parameters that capture count. -/
theorem buildWith_congr {b : Builder} {value value' : Key → Option Value}
    (same : ∀ k ∈ Token.keys b.tokens, value k = value' k) :
    b.buildWith value = b.buildWith value' := by
  have each : ∀ part ∈ b.parts, b.partWith value part = b.partWith value' part := by
    rintro ⟨t, validator⟩ member
    cases t with
    | text t => rfl
    | param k =>
      by_cases captures : k.captures = true
      · have listed : .param k ∈ b.tokens := List.mem_map_of_mem (f := Prod.fst) member
        simp [partWith, captures, same k (Token.mem_keys.2 ⟨listed, captures⟩)]
      · simp [partWith, captures]
  rw [buildWith, buildWith, mapM_congr each]

end Builder

namespace Pattern

variable {o : Options} {text : Text} {p : Pattern}

/-- The entries of a match are those of the keys. -/
theorem exists_key_of_match? {path : Text} {found : Match} (matched : p.match? path = some found)
    {e : Name × Value} (member : e ∈ found.params.entries) : ∃ k ∈ p.keys, k.name = e.1 := by
  obtain ⟨f, -, rfl⟩ := Option.map_eq_some_iff.1 matched
  rcases Matcher.mem_paramsFrom member with none | ⟨i, k, raw, listed, named, -, -⟩
  · cases none
  · exact ⟨k, List.mem_of_getElem? listed, named⟩

theorem keys_builder (compiled : ofText o text = .ok p) : Token.keys p.builder.tokens = p.keys := by
  obtain ⟨ts, -, compiled⟩ := bind_eq_ok_iff.1 compiled
  have of := ofTokens_of compiled
  rw [of.keys, of.builder.tokens]

/-- Each parameter is built from the entry under its own name, unless its rival comes before it. Where
no parameter is the rival of another one, what a match gives has no rivals. -/
theorem build_eq_buildWith (compiled : ofText o text = .ok p)
    (fits : ∀ k ∈ p.keys, k.name.fits = true) :
    (∀ data : Params, p.build data = p.builder.buildWith fun k =>
      if data.isOvertaken k.name then k.name.rival?.bind data.getNamed?
      else data.getNamed? k.name) ∧
    ((∀ k ∈ p.keys, ∀ k' ∈ p.keys, k.name.rival? ≠ some k'.name) →
      ∀ path found, p.match? path = some found →
        p.build found.params = p.builder.buildWith fun k => found.params.getNamed? k.name) := by
  have keys := keys_builder compiled
  have finds : ∀ k ∈ Token.keys p.builder.tokens, ∀ data : Params, data.get? k.name.text = _ :=
    fun k member => Params.get?_text (fits k (keys ▸ member))
  constructor
  · intro data
    rw [build, Builder.build_eq]
    exact Builder.buildWith_congr fun k member => finds k member data
  · intro apart path found matched
    rw [build, Builder.build_eq]
    refine Builder.buildWith_congr fun k member => ?_
    have clear : found.params.isOvertaken k.name = false := by
      refine Params.isOvertaken_of_foreign fun e listed => ?_
      obtain ⟨k', member', named⟩ := exists_key_of_match? matched listed
      exact named ▸ apart k (keys ▸ member) k' member'
    rw [finds k member, clear, if_neg (by simp)]

/-- An entry under the text of a number stands behind the one under the number. -/
theorem build_eq_buildWith_numbered : ∃ p, ofText {} "/([a-z]+)/:id".toList = .ok p ∧
    p.keys.map (·.name) = [.ordinal 0, .named "id".toList] ∧
    p.build ⟨[(.ordinal 0, .single "ab".toList), (.named ['0'], .single ['7']),
      (.named "id".toList, .single ['5'])]⟩ =
      p.builder.buildWith (fun k =>
        if k.name = .ordinal 0 then some (.single "ab".toList) else some (.single ['5'])) := by
  have evaluated : (ofText {} "/([a-z]+)/:id".toList).toOption.map (·.keys.map (·.name)) =
      some [.ordinal 0, .named "id".toList] := by decide +kernel
  obtain ⟨p, found, names⟩ := Option.map_eq_some_iff.1 evaluated
  have compiled := eq_ok_of_toOption found
  have named : ∀ k ∈ p.keys, k.name = .ordinal 0 ∨ k.name = .named "id".toList := by
    intro k member
    have listed : k.name ∈ p.keys.map (·.name) := List.mem_map_of_mem member
    simpa [names] using listed
  have fits : ∀ k ∈ p.keys, k.name.fits = true := by
    intro k member
    rcases named k member with same | same <;> rw [same] <;> rfl
  refine ⟨p, compiled, names, ((build_eq_buildWith compiled fits).1 _).trans ?_⟩
  refine Builder.buildWith_congr fun k member => ?_
  rw [keys_builder compiled] at member
  rcases named k member with same | same <;> rw [same] <;> rfl

/-- A number and a name that shows the same text. A match finds a value for each, and the text leads to
the name for both. -/
theorem exists_build_of_rival : ∃ p found, ofText {} "/:0/([a-z]+)".toList = .ok p ∧
    p.keys.map (·.name) = [.named ['0'], .ordinal 0] ∧
    p.match? "/7/ab".toList = some found ∧
    found.params.getNamed? (.ordinal 0) = some (.single "ab".toList) ∧
    p.build found.params = .error (.invalidSegment ['0'] "[a-z]+".toList ['7']) := by
  have evaluated : (ofText {} "/:0/([a-z]+)".toList).toOption.bind (fun p =>
      (p.match? "/7/ab".toList).map fun found => (p.keys.map (·.name),
        found.params.getNamed? (.ordinal 0), p.build found.params)) =
      some ([.named ['0'], .ordinal 0], some (.single "ab".toList),
        .error (.invalidSegment ['0'] "[a-z]+".toList ['7'])) := by decide +kernel
  obtain ⟨p, compiled, same⟩ := Option.bind_eq_some_iff.1 evaluated
  obtain ⟨found, matched, same⟩ := Option.map_eq_some_iff.1 same
  obtain ⟨names, value, refused⟩ : _ ∧ _ ∧ _ := by simpa only [Prod.mk.injEq] using same
  exact ⟨p, found, eq_ok_of_toOption compiled, names, matched, value, refused⟩

end Pattern

end RoutePattern
