import RoutePattern.Pattern
import RoutePattern.Proofs.Except
import RoutePattern.Proofs.Token.Plain

/-! # Compiled patterns

A pattern that compiles has the tokens that were read from its text, and the matcher and the builder
of these tokens.
-/

namespace RoutePattern

namespace Matcher

/-- The matcher of tokens. -/
structure Of (o : Options) (ts : List Token) (m : Matcher) : Prop where
  source : m.source = o.withCase (Token.sourceOf o ts)
  program : Program.ofSource o (Token.sourceOf o ts) = .ok m.program
  keys : m.keys = Token.keys ts
  decode : m.decode = o.decode

theorem ofTokens_of {o : Options} {ts : List Token} {m : Matcher} (compiled : ofTokens o ts = .ok m) :
    m.Of o ts := by
  simp only [ofTokens, ofSource, bind_eq_ok_iff] at compiled
  obtain ⟨p, program, same⟩ := compiled
  obtain rfl := Except.ok.inj same
  exact ⟨rfl, program, rfl, rfl⟩

end Matcher

namespace Builder

/-- The builder of tokens. -/
structure Of (o : Options) (ts : List Token) (b : Builder) : Prop where
  parts : List.Forall₂ (fun t part => partOf o t = .ok part) ts b.parts
  encode : b.encode = o.encode
  validate : b.validate = o.validate

theorem ofTokens_of {o : Options} {ts : List Token} {b : Builder} (compiled : ofTokens o ts = .ok b) :
    b.Of o ts := by
  simp only [ofTokens, bind_eq_ok_iff] at compiled
  obtain ⟨parts, each, same⟩ := compiled
  obtain rfl := Except.ok.inj same
  exact ⟨mapM_eq_ok_iff.1 each, rfl, rfl⟩

/-- The part of a parameter has the program of its check. -/
theorem exists_of_partOf_param {o : Options} {k : Key} {part : Token × Option Program}
    (made : partOf o (.param k) = .ok part) :
    ∃ p, Program.ofSource o k.validatorSource = .ok p ∧ part = (.param k, some p) := by
  obtain ⟨p, compiled, same⟩ := bind_eq_ok_iff.1 made
  exact ⟨p, compiled, (Except.ok.inj same).symm⟩

theorem fst_of_partOf {o : Options} {t : Token} {part : Token × Option Program}
    (made : partOf o t = .ok part) : part.1 = t := by
  cases t with
  | text t => rw [← Except.ok.inj made]
  | param k =>
    obtain ⟨p, -, rfl⟩ := exists_of_partOf_param made
    rfl

theorem Of.tokens {o : Options} {ts : List Token} {b : Builder} (compiled : b.Of o ts) :
    b.tokens = ts := by
  -- The parts are taken away from the builder for the induction.
  have parts := compiled.parts
  clear compiled
  unfold Builder.tokens
  generalize b.parts = made at parts ⊢
  induction parts with
  | nil => rfl
  | cons first _ ih => rw [List.map_cons, ih, fst_of_partOf first]

end Builder

namespace Pattern

variable {o matching building : Options} {text : Text} {ts : List Token} {p : Pattern}

/-- A pattern of tokens, whose matcher and builder may differ in their options. -/
structure Of (matching building : Options) (ts : List Token) (p : Pattern) : Prop where
  matcher : p.matcher.Of matching ts
  builder : p.builder.Of building ts

theorem Of.tokens (compiled : p.Of matching building ts) : p.tokens = ts := compiled.builder.tokens

theorem Of.keys (compiled : p.Of matching building ts) : p.keys = Token.keys ts := compiled.matcher.keys

theorem ofTokens_of (compiled : ofTokens matching building text ts = .ok p) :
    p.Of matching building ts := by
  simp only [ofTokens, bind_eq_ok_iff] at compiled
  obtain ⟨m, matcher, b, builder, same⟩ := compiled
  obtain rfl := Except.ok.inj same
  exact ⟨Matcher.ofTokens_of matcher, Builder.ofTokens_of builder⟩

/-- What the text of a pattern without fragments compiles to. -/
theorem ofText_of (plain : Lexeme.withoutFragments text = true) (compiled : ofText o text = .ok p) :
    ∃ ts, p.Of o o ts ∧ Token.simple o ts = true ∧ ∀ k ∈ Token.keys ts, ∃ n, k.name = .named n := by
  obtain ⟨ts, read, compiled⟩ := bind_eq_ok_iff.1 compiled
  have keys := Token.plain_ofPattern plain read
  exact ⟨ts, ofTokens_of compiled, Token.simple_of_plain keys, Token.named_of_plain keys⟩

/-- A pattern of URL paths matches what is written in the path and decodes it; what it builds from is
encoded first. -/
theorem forUrl_of (plain : Lexeme.withoutFragments text = true) (compiled : forUrl o text = .ok p) :
    ∃ ts, p.Of { o with encode := .identity, decode := .percent } { o with encode := .percent } ts ∧
      Token.simple o ts = true ∧ ∀ k ∈ Token.keys ts, ∃ n, k.name = .named n := by
  obtain ⟨ts, read, compiled⟩ := bind_eq_ok_iff.1 compiled
  have keys := Token.plain_ofPattern plain read
  exact ⟨ts, ofTokens_of compiled, Token.simple_of_plain keys, Token.named_of_plain keys⟩

end Pattern

end RoutePattern
