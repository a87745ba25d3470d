import RoutePattern.Proofs.Builder
import RoutePattern.Proofs.Token.Alternation

/-! # Which patterns compile

A pattern without fragments compiles, whatever characters its texts and its options hold, if no group
without any text has a modifier and its expression stays within the limit on sizes
(`Pattern.exists_of_ofPattern?`).
-/

namespace RoutePattern

open RoutePattern.Expr (ofParts)

theorem Expr.writtenSize_ofParts (es : List Expr) :
    (ofParts es).writtenSize = (es.map (·.writtenSize)).sum := by
  induction es with
  | nil => rfl
  | cons e es ih =>
    cases es with
    | nil => simp [ofParts]
    | cons e' es => simp only [ofParts, writtenSize, ih, List.map_cons, List.sum_cons]

theorem Program.ofSource_eq_ok {o : Options} {source : Text} {n : Expr.Notated} {p : Program}
    (read : Expr.read? (o.withCase source) = some n) (program : ofNotated? n = some p) :
    ofSource o source = .ok p := by
  rw [ofSource, ofText?, read, Option.bind_some, program]

namespace Token

variable {o : Options} {ts : List Token}

theorem isLive_whole (o : Options) (ts : List Token) : (ofParts (wholeExprs o ts)).isLive = true := by
  rw [Expr.isLive_ofParts, List.all_eq_true, wholeExprs, List.forall_mem_append, List.forall_mem_append]
  refine ⟨⟨?_, isLive_exprs o 0 ts⟩, o.isLive_endingExprs ts⟩
  split
  · exact List.forall_mem_singleton.2 rfl
  · exact List.forall_mem_nil _

theorem exprs_decode (o : Options) (decode : Codec) (groups : Nat) (ts : List Token) :
    exprs { o with decode } groups ts = exprs o groups ts := by
  induction ts generalizing groups with
  | nil => rfl
  | cons t ts ih =>
    cases t with
    | text t => rw [exprs, exprs, ih]; rfl
    | param k => rw [exprs, exprs, ih]; rfl

/-- How values are decoded does not matter to the expression. -/
theorem wholeExprs_decode (o : Options) (decode : Codec) (ts : List Token) :
    wholeExprs { o with decode } ts = wholeExprs o ts := by
  rw [wholeExprs, wholeExprs, exprs_decode]
  rfl

theorem isSettleable_whole_iff :
    (ofParts (wholeExprs o ts)).isSettleable = true ↔
      (ofParts (wholeExprs o ts)).programSize ≤ Expr.sizeLimit := by
  simp [Expr.isSettleable, Expr.ordered_of_tame (tame_whole o ts)]

/-- Both engines take the expression of a token list that is small enough. -/
theorem exists_program (simple : Token.simple o ts = true) (solid : Token.solid o ts = true)
    (small : (ofParts (wholeExprs o ts)).programSize ≤ Expr.sizeLimit) :
    ∃ p, Program.ofSource o (sourceOf o ts) = .ok p := by
  have read := read?_withCase ts simple
  rw [if_pos solid] at read
  have settleable := isSettleable_whole_iff.2 small
  have program : ∃ p, Program.ofNotated? ⟨ofParts (wholeExprs o ts), groupsBehind 0 ts, []⟩ =
      some p := by
    rw [← Option.isSome_iff_exists, Program.ofNotated?]
    split
    · rw [Option.isSome_map]
      exact Expr.isSome_ofExpr? (tame_whole o ts) (isLive_whole o ts) settleable true .whole
    · rfl
  obtain ⟨p, program⟩ := program
  exact ⟨p, Program.ofSource_eq_ok read program⟩

end Token

/-- A step for each end and a range of counts of one step. -/
theorem Options.isSettleable_validatorExprs (o : Options) :
    (ofParts o.validatorExprs).isSettleable = true := by
  have size : (Expr.Reader.segmentSet o.relaxed o.delimiter).leastSize = 1 := by
    unfold Expr.Reader.segmentSet
    split
    · cases o.relaxed <;> rfl
    · rfl
  simp [Options.validatorExprs, Options.segmentExpr, ofParts, Expr.isSettleable, Expr.ordered,
    Expr.programSize, Expr.writtenSize, size, Expr.sizeLimit]

/-- The check of a value compiles, also the one that a group of literal text is given. -/
theorem Key.exists_validator {o : Options} {k : Key} (simple : k.isSimple o = true) :
    ∃ p, Program.ofSource o k.validatorSource = .ok p := by
  cases blank : k.fragment.isEmpty with
  | true =>
    have fragment : k.fragment = [] := List.isEmpty_iff.1 blank
    have evaluated : ((Program.ofText? "^(?:)$".toList).isSome &&
        (Program.ofText? "(?i)^(?:)$".toList).isSome) = true := rfl
    rw [Bool.and_eq_true] at evaluated
    have compiled : ∃ p, Program.ofText? (o.withCase k.validatorSource) = some p := by
      rw [← Option.isSome_iff_exists, Key.validatorSource, fragment, Options.withCase]
      cases o.sensitive with
      | true => exact evaluated.1
      | false => exact evaluated.2
    obtain ⟨p, compiled⟩ := compiled
    exact ⟨p, by rw [Program.ofSource, compiled]⟩
  | false =>
    have segment : k.fragment = o.segment := Key.fragment_eq simple (by simp [Key.captures, blank])
    have program : Program.ofNotated? ⟨ofParts o.validatorExprs, 0, []⟩ =
        some (.settled (ofParts o.validatorExprs)) := by
      have direct : (ofParts o.validatorExprs).needsSearch [] = false := rfl
      simp only [Program.ofNotated?, direct, o.isSettleable_validatorExprs, Bool.false_eq_true,
        if_false, if_true]
    exact ⟨_, Program.ofSource_eq_ok (Key.read?_validator segment) program⟩

namespace Builder

theorem exists_partOf {o : Options} {t : Token} (simple : t.key?.all (·.isSimple o) = true) :
    ∃ part, partOf o t = .ok part := by
  cases t with
  | text t => exact ⟨_, rfl⟩
  | param k =>
    obtain ⟨p, compiled⟩ := Key.exists_validator (o := o) (k := k) (by simpa [Token.key?] using simple)
    exact ⟨(.param k, some p), by rw [partOf, compiled]; rfl⟩

/-- A builder checks its values under the options for case and delimiters only. -/
theorem exists_ofTokens {o : Options} {ts : List Token} (simple : Token.simple o ts = true) :
    ∃ b, ofTokens o ts = .ok b := by
  obtain ⟨parts, each⟩ := exists_mapM_eq_ok fun t member =>
    exists_partOf (List.all_eq_true.1 simple t member)
  exact ⟨⟨parts, o.encode, o.validate⟩, by rw [ofTokens, each]; rfl⟩

end Builder

namespace Matcher

theorem exists_ofTokens {o : Options} {ts : List Token} (simple : Token.simple o ts = true)
    (solid : Token.solid o ts = true)
    (small : (ofParts (Token.wholeExprs o ts)).programSize ≤ Expr.sizeLimit) :
    ∃ m, ofTokens o ts = .ok m := by
  obtain ⟨p, compiled⟩ := Token.exists_program simple solid small
  exact ⟨_, by rw [ofTokens, ofSource, compiled]; rfl⟩

end Matcher

namespace Pattern

variable {o : Options} {text : Text} {ts : List Token}

theorem ofTokens_eq_ok {matching building : Options} {m : Matcher} {b : Builder}
    (matcher : Matcher.ofTokens matching ts = .ok m)
    (builder : Builder.ofTokens building ts = .ok b) (text : Text) :
    ofTokens matching building text ts = .ok ⟨text, m, b⟩ := by
  rw [ofTokens, matcher, builder]
  rfl

/-- Where nothing is encoded the texts of a group are those of its parts. -/
theorem solid_of_filled (asWritten : o.encode = .identity)
    (filled : ∀ k, .param k ∈ ts → k.fragment = [] → k.modifier ≠ none → k.lead ++ k.trail ≠ []) :
    Token.solid o ts = true := by
  have written : ∀ t, o.textExprs t = [] ↔ t = [] := by
    intro t
    simp [Options.textExprs, asWritten, Codec.encode]
  refine List.all_eq_true.2 fun t member => ?_
  cases t with
  | text t => rfl
  | param k =>
    rw [Token.key?, Option.all_some, Bool.not_eq_true']
    by_contra blank
    simp only [Key.isBlank, Bool.not_eq_false, Bool.and_eq_true, List.isEmpty_iff,
      List.append_eq_nil_iff, written] at blank
    obtain ⟨⟨fragment, lead, trail⟩, modified⟩ := blank
    have texts := filled k member fragment (Option.isSome_iff_ne_none.1 modified)
    simp [lead, trail] at texts

/-- A pattern without fragments that can be read compiles in every form: alone as a matcher or as a
builder, as a pattern, and as a pattern of URL paths. The bound on the size leaves out no pattern whose
program fits: `programSize` is exact for literal texts that tell case apart, and else a lower bound. -/
theorem exists_of_ofPattern? (plain : Lexeme.withoutFragments text = true)
    (asWritten : o.encode = .identity) (read : Token.ofPattern? o text = .ok ts)
    (filled : ∀ k, .param k ∈ ts → k.fragment = [] → k.modifier ≠ none → k.lead ++ k.trail ≠ [])
    (small : (ofParts (Token.wholeExprs o ts)).programSize ≤ Expr.sizeLimit) :
    (∃ m, Matcher.ofPattern o text = .ok m) ∧ (∃ b, Builder.ofPattern o text = .ok b) ∧
      (∃ p, ofText o text = .ok p) ∧ ∃ p, forUrl o text = .ok p := by
  have simple := Token.simple_of_plain (Token.plain_ofPattern plain read)
  have solid := solid_of_filled asWritten filled
  obtain ⟨m, matcher⟩ := Matcher.exists_ofTokens simple solid small
  obtain ⟨b, builder⟩ := Builder.exists_ofTokens simple
  have encoding : ({ o with encode := .identity, decode := .percent } : Options) =
      { o with decode := .percent } := by rw [← asWritten]
  -- What a URL pattern encodes and decodes is no part of its expression, nor of its checks.
  have matching : ∃ m, Matcher.ofTokens { o with encode := .identity, decode := .percent } ts = .ok m :=
    Matcher.exists_ofTokens simple (solid_of_filled rfl filled)
      (by rw [encoding, Token.wholeExprs_decode]; exact small)
  have building : ∃ b, Builder.ofTokens { o with encode := .percent } ts = .ok b :=
    Builder.exists_ofTokens simple
  obtain ⟨m', matcher'⟩ := matching
  obtain ⟨b', builder'⟩ := building
  refine ⟨⟨m, ?_⟩, ⟨b, ?_⟩, ⟨⟨text, m, b⟩, ?_⟩, ⟨⟨text, m', b'⟩, ?_⟩⟩
  · rw [Matcher.ofPattern, read]
    exact matcher
  · rw [Builder.ofPattern, read]
    exact builder
  · rw [ofText, read]
    exact ofTokens_eq_ok matcher builder text
  · rw [forUrl, read]
    exact ofTokens_eq_ok matcher' builder' text

theorem exists_of_ofPattern?_signs :
    let o : Options :=
      { anchoredEnd := false, delimiter := "]^-&&~~\\".toList, endsWith := "[#".toList }
    let text := "/a.b[\x7b-:id|\x7d*:x+\x7b$\x7d?".toList
    (∃ m, Matcher.ofPattern o text = .ok m) ∧ (∃ b, Builder.ofPattern o text = .ok b) ∧
      (∃ p, ofText o text = .ok p) ∧ ∃ p, forUrl o text = .ok p := by
  intro o text
  let id : Key := ⟨.named "id".toList, ['-'], ['|'], o.segment, some .zeroOrMore⟩
  let x : Key := ⟨.named ['x'], [], [], o.segment, some .oneOrMore⟩
  let sign : Key := ⟨.named [], ['$'], [], [], some .optional⟩
  let ts : List Token := [.text "/a.b[".toList, .param id, .param x, .param sign]
  have read : Token.ofPattern? o text = .ok ts := eq_ok_of_toOption (by decide +kernel)
  have segment : o.segment ≠ [] := List.cons_ne_nil _ _
  have filled : ∀ k, .param k ∈ ts → k.fragment = [] → k.modifier ≠ none → k.lead ++ k.trail ≠ [] := by
    simp [ts, id, x, sign, segment]
  exact exists_of_ofPattern? (by decide +kernel) rfl read filled (by decide +kernel)

end Pattern

end RoutePattern
