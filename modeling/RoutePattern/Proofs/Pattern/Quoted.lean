import RoutePattern.Proofs.Pattern.Compiling
import RoutePattern.Proofs.Token.Layout

/-! # Quoted texts

A text with a backslash before each of its characters is a pattern of this text alone
(`Token.ofPattern?_quoted`), whatever the characters mean to patterns and to expressions. Under options
that let nothing else match, the pattern stands for the text in both directions
(`Pattern.exists_ofText_quoted`).
-/

namespace RoutePattern

open RoutePattern.Expr (anchor ofParts waysThrough)

/-- A text with a backslash before each character. -/
def Text.quoted (s : Text) : Text := s.flatMap fun c => ['\\', c]

theorem Text.byteLength_replicate (n : Nat) (c : Char) :
    byteLength (List.replicate n c) = n * c.utf8Size := by
  induction n with
  | zero => simp
  | succ n ih => simp [List.replicate_succ, ih, Nat.add_one_mul, Nat.add_comm]

namespace Lexeme

/-- The lexemes of a quoted text. -/
def escapedAt (index : Nat) : Text → List Lexeme
  | [] => []
  | c :: s => ⟨index, .escaped c⟩ :: escapedAt (index + 1 + c.utf8Size) s

theorem exists_scanFrom_quoted (s : Text) (index : Nat) (bound : Bool) :
    ∃ n, scanFrom index bound (Text.quoted s) = .ok (escapedAt index s ++ [⟨n, .finish⟩]) := by
  induction s generalizing index bound with
  | nil => exact ⟨index, by rw [Text.quoted, List.flatMap_nil, scanFrom]; rfl⟩
  | cons c s ih =>
    obtain ⟨n, later⟩ := ih (index + 1 + c.utf8Size) false
    have shape : Text.quoted (c :: s) = '\\' :: c :: Text.quoted s := rfl
    exact ⟨n, by rw [shape, scanFrom, later]; rfl⟩

theorem withoutFragments_quoted (s : Text) : withoutFragments (Text.quoted s) = true := by
  have escapes : ∀ index, (escapedAt index s).all (fun l => !l.isFragment) = true := by
    induction s with
    | nil => exact fun _ => rfl
    | cons c s ih =>
      intro index
      rw [escapedAt, List.all_cons, ih]
      rfl
  obtain ⟨n, scanned⟩ := exists_scanFrom_quoted s 0 false
  rw [withoutFragments, scan, scanned]
  simp only [List.all_append, escapes, Bool.true_and]
  rfl

end Lexeme

theorem Phrase.ofLexemes_escapedAt (index n : Nat) (s : Text) :
    ofLexemes (Lexeme.escapedAt index s ++ [⟨n, .finish⟩]) = .ok (s.map .escaped) := by
  induction s generalizing index with
  | nil => rw [Lexeme.escapedAt, List.nil_append, ofLexemes]; rfl
  | cons c s ih =>
    rw [Lexeme.escapedAt, List.cons_append, ofLexemes]
    simp [next, ih, Except.map]

namespace Token

variable {o : Options} {s : Text}

theorem ofPhrases_escaped (ordinal : Nat) (pending s : Text) :
    ofPhrases o ordinal pending (s.map .escaped) = ofText (pending.reverse ++ s) := by
  induction s generalizing pending with
  | nil => rw [List.map_nil, ofPhrases, List.append_nil]
  | cons c s ih => rw [List.map_cons, ofPhrases, ih, List.reverse_cons, List.append_assoc]; rfl

/-- What is quoted is literal text. -/
theorem ofPattern?_quoted (o : Options) (s : Text) : ofPattern? o (Text.quoted s) = .ok (ofText s) := by
  obtain ⟨n, scanned⟩ := Lexeme.exists_scanFrom_quoted s 0 false
  rw [ofPattern?, Lexeme.scan, scanned]
  change (Phrase.ofLexemes _ >>= _) = _
  rw [Phrase.ofLexemes_escapedAt]
  exact congrArg Except.ok (ofPhrases_escaped 0 [] s)

theorem keys_ofText (s : Text) : keys (ofText s) = [] := by
  unfold ofText
  split <;> rfl

theorem arePlain_ofText (s : Text) : arePlain (ofText s) = true := by
  unfold ofText
  split <;> rfl

theorem simple_ofText (s : Text) : Token.simple o (ofText s) = true := by
  unfold ofText
  split <;> rfl

theorem solid_ofText (s : Text) : Token.solid o (ofText s) = true := by
  unfold ofText
  split <;> rfl

theorem exprs_ofText (asWritten : o.encode = .identity) (groups : Nat) (s : Text) :
    exprs o groups (ofText s) = o.textExprs s := by
  unfold ofText
  split
  · rename_i blank
    simp [exprs, Options.textExprs, asWritten, Codec.encode, List.isEmpty_iff.1 blank]
  · simp [exprs]

end Token

/-- The options let a path match a text only if it is the text. -/
structure Options.Bare (o : Options) : Prop where
  sensitive : o.sensitive = true
  strict : o.strict = true
  anchoredStart : o.anchoredStart = true
  anchoredEnd : o.anchoredEnd = true
  endsWith : o.endsWith = []
  encode : o.encode = .identity

section Bare

variable {o : Options} {s path : Text} {t u : Thread}

theorem Options.Bare.endingExprs (bare : o.Bare) (ts : List Token) :
    o.endingExprs ts = [anchor .textEnd] := by
  simp [Options.endingExprs, Options.wholeEndingExprs, bare.anchoredEnd, bare.strict, bare.endsWith]

theorem Options.Bare.wholeExprs (bare : o.Bare) (s : Text) :
    Token.wholeExprs o (Token.ofText s) =
      [anchor .textStart] ++ o.textExprs s ++ [anchor .textEnd] := by
  rw [Token.wholeExprs, bare.endingExprs, Token.exprs_ofText bare.encode, bare.anchoredStart, if_pos rfl]

/-- The expression of a text has a step for each byte and for both ends. -/
theorem Options.Bare.writtenSize (bare : o.Bare) (s : Text) :
    (ofParts (Token.wholeExprs o (Token.ofText s))).writtenSize = s.byteLength + 2 := by
  have size : ∀ c, (Expr.char (.literal o.relaxed c)).writtenSize = c.utf8Size := by
    intro c
    simp [Expr.writtenSize, CharSet.literal, Options.relaxed, bare.sensitive, CharSet.leastSize]
  have texts : ((o.textExprs s).map (·.writtenSize)).sum = s.byteLength := by
    rw [Options.textExprs, bare.encode, Codec.encode]
    induction s with
    | nil => rfl
    | cons c s ih => simp only [List.map_cons, List.sum_cons, size, Text.byteLength_cons, ih]
  rw [bare.wholeExprs, Expr.writtenSize_ofParts, List.map_append, List.map_append, List.sum_append,
    List.sum_append, texts]
  simp [Expr.writtenSize]
  omega

theorem Options.Bare.programSize (bare : o.Bare) (s : Text) :
    (ofParts (Token.wholeExprs o (Token.ofText s))).programSize = s.byteLength + 6 := by
  rw [Expr.programSize, bare.writtenSize]

theorem Options.Bare.initials? (bare : o.Bare) (c : Char) (s : Text) :
    (ofParts (Token.wholeExprs o (Token.ofText (c :: s)))).initials? false = some [c] := by
  have letter : (CharSet.literal o.relaxed c).letter? = some c := by
    unfold CharSet.literal
    split <;> rfl
  have parts : Token.wholeExprs o (Token.ofText (c :: s)) =
      anchor .textStart :: .char (.literal o.relaxed c) :: (o.textExprs s ++ [anchor .textEnd]) := by
    simp [bare.wholeExprs, Options.textExprs, bare.encode, Codec.encode]
  rw [parts, ofParts, ofParts]
  · simp [Expr.initials?, Expr.isAnchor, letter]
  · simp
  · simp

/-- The only way through the text and the end passes the text, if that is all that is ahead. -/
theorem mem_ways_ofText (bare : o.Bare) :
    u ∈ waysThrough (Token.exprs o 0 (Token.ofText s) ++ o.endingExprs (Token.ofText s)) t ↔
      u = t.skip s ∧ t.place.after = s := by
  rw [Token.exprs_ofText bare.encode, bare.endingExprs, Expr.waysThrough_append, List.mem_flatMap]
  simp only [mem_ways_textExprs bare.encode, Options.mem_spelling_of_sensitive bare.sensitive,
    Expr.waysThrough_single, Options.mem_ways_textEnd, exists_eq_left]
  constructor
  · rintro ⟨_, ⟨⟨rest, ahead⟩, rfl⟩, rfl, finished⟩
    refine ⟨rfl, ?_⟩
    rw [Thread.skip_place, Place.beyond_after, ← ahead, List.drop_left] at finished
    rw [← ahead, finished, List.append_nil]
  · rintro ⟨rfl, rfl⟩
    exact ⟨_, ⟨List.prefix_refl _, rfl⟩, rfl, by simp⟩

theorem Token.find?_ofText (bare : o.Bare) {p : Program}
    (compiled : Program.ofSource o (sourceOf o (ofText s)) = .ok p) (path : Text) :
    p.find? path =
      if path = s then some ⟨.start path, (Thread.ofPlace (.start path)).skip s⟩ else none := by
  have finished := search_ne_gaveUp (simple_ofText s) compiled bare.anchoredEnd bare.endsWith path
  rw [find?_eq (simple_ofText s) bare.anchoredStart compiled finished]
  have ways : ∀ u, u ∈ waysThrough (exprs o 0 (ofText s) ++ o.endingExprs (ofText s))
      (.ofPlace (.start path)) ↔ u = (Thread.ofPlace (.start path)).skip s ∧ path = s :=
    fun u => mem_ways_ofText bare
  split
  · rename_i same
    have first := (ways _).2 ⟨rfl, same⟩
    obtain ⟨u, head⟩ := Option.isSome_iff_exists.1
      (List.isSome_head?.2 (List.ne_nil_of_mem first))
    rw [head, ((ways u).1 (List.mem_of_head? head)).1]
    rfl
  · rename_i differs
    have none : waysThrough (exprs o 0 (ofText s) ++ o.endingExprs (ofText s))
        (.ofPlace (.start path)) = [] :=
      List.eq_nil_iff_forall_not_mem.2 fun u way => differs ((ways u).1 way).2
    rw [none]
    rfl

/-- Without look-ahead an expression that is above the limit by the lower bound `programSize` has no
program. -/
theorem Token.small_of_ofSource {ts : List Token} {p : Program} (simple : Token.simple o ts = true)
    (whole : o.anchoredEnd = true) (last : o.endsWith = [])
    (compiled : Program.ofSource o (sourceOf o ts) = .ok p) :
    (ofParts (wholeExprs o ts)).programSize ≤ Expr.sizeLimit := by
  have program := (program_eq simple compiled).2
  rw [Program.ofNotated?, needsSearch_whole ts whole last, if_neg Bool.false_ne_true] at program
  split at program
  · rename_i settleable
    exact isSettleable_whole_iff.1 settleable
  · cases program

theorem Matcher.plain_ofTokens {m : Matcher} {ts : List Token} (compiled : ofTokens o ts = .ok m) :
    m.plain = Token.arePlain ts := by
  simp only [ofTokens, ofSource, bind_eq_ok_iff] at compiled
  obtain ⟨p, -, same⟩ := compiled
  obtain rfl := Except.ok.inj same
  rfl

theorem Matcher.match?_ofText {m : Matcher} (bare : o.Bare) (compiled : m.Of o (Token.ofText s))
    (path : Text) : m.match? path = if path = s then some ⟨s, 0, .empty⟩ else none := by
  rw [match?, Token.find?_ofText bare compiled.program, compiled.keys, Token.keys_ofText]
  split
  · rename_i same
    have ahead : s <+: (Place.start path).after := same ▸ List.prefix_refl path
    have taken : Found.text ⟨.start path, (Thread.ofPlace (.start path)).skip s⟩ = s :=
      Place.textUpTo_beyond ahead
    rw [Option.map_some, taken]
    rfl
  · rfl

theorem Builder.build_ofText {b : Builder} (compiled : b.Of o (Token.ofText s)) (data : Params) :
    b.build data = .ok s := by
  have parts := compiled.parts
  unfold Token.ofText at parts
  split at parts
  · rename_i blank
    rw [build, List.forall₂_nil_left_iff.1 parts, List.isEmpty_iff.1 blank]
    rfl
  · obtain ⟨part, rest, made, none, same⟩ := List.forall₂_cons_left_iff.1 parts
    obtain rfl := Except.ok.inj made
    obtain rfl := List.forall₂_nil_left_iff.1 none
    rw [build, same]
    simp [List.mapM_cons, part, bind, Except.bind, pure, Except.pure]

end Bare

namespace Pattern

variable {o : Options} {s : Text}

/-- The pattern of a quoted text stands for the text: it has no parameters, every path that is built
from it is the text, and no other path matches. Case is told apart, so the bound on the size is exact. -/
theorem exists_ofText_quoted (bare : o.Bare) (small : s.byteLength + 6 ≤ Expr.sizeLimit) :
    ∃ p, ofText o (Text.quoted s) = .ok p ∧ p.plain = true ∧ p.keys = [] ∧
      (∀ data, p.build data = .ok s) ∧
      ∀ path, p.match? path = if path = s then some ⟨s, 0, .empty⟩ else none := by
  have simple : Token.simple o (Token.ofText s) = true := Token.simple_ofText s
  obtain ⟨m, matcher⟩ := Matcher.exists_ofTokens simple (Token.solid_ofText s)
    (by rwa [bare.programSize])
  obtain ⟨b, builder⟩ := Builder.exists_ofTokens simple
  have compiled := Matcher.ofTokens_of matcher
  refine ⟨⟨Text.quoted s, m, b⟩, ?_, ?_, ?_, ?_, ?_⟩
  · rw [ofText, Token.ofPattern?_quoted]
    exact ofTokens_eq_ok matcher builder _
  · exact (Matcher.plain_ofTokens matcher).trans (Token.arePlain_ofText s)
  · exact compiled.keys.trans (Token.keys_ofText s)
  · exact Builder.build_ofText (Builder.ofTokens_of builder)
  · exact Matcher.match?_ofText bare compiled

theorem exists_ofText_quoted_signs :
    ∃ p, ofText { sensitive := true, strict := true } (Text.quoted "(/:é\x7b*+?\\^[-]$.\x7d|#)".toList) =
        .ok p ∧
      p.plain = true ∧ p.keys = [] ∧ (∀ data, p.build data = .ok "(/:é\x7b*+?\\^[-]$.\x7d|#)".toList) ∧
      ∀ path, p.match? path =
        if path = "(/:é\x7b*+?\\^[-]$.\x7d|#)".toList then
          some ⟨"(/:é\x7b*+?\\^[-]$.\x7d|#)".toList, 0, .empty⟩
        else none :=
  exists_ofText_quoted ⟨rfl, rfl, rfl, rfl, rfl, rfl⟩ (by decide +kernel)

/-- A text whose expression is above the limit on sizes is refused. -/
theorem small_of_ofText_quoted {p : Pattern} (bare : o.Bare)
    (compiled : ofText o (Text.quoted s) = .ok p) : s.byteLength + 6 ≤ Expr.sizeLimit := by
  rw [ofText, Token.ofPattern?_quoted] at compiled
  have matcher := (ofTokens_of compiled).matcher
  rw [← bare.programSize]
  exact Token.small_of_ofSource (Token.simple_ofText s) bare.anchoredEnd bare.endsWith matcher.program

theorem not_exists_ofText_quoted_large :
    List.replicate 330000 'a' ≠ [] ∧ Options.Bare { sensitive := true, strict := true } ∧
      ¬∃ p, ofText { sensitive := true, strict := true } (Text.quoted (List.replicate 330000 'a')) =
        .ok p := by
  have size : 'a'.utf8Size = 1 := rfl
  refine ⟨mt (List.replicate_eq_nil_iff _).1 (by simp), ⟨rfl, rfl, rfl, rfl, rfl, rfl⟩, ?_⟩
  rintro ⟨p, compiled⟩
  have small := small_of_ofText_quoted ⟨rfl, rfl, rfl, rfl, rfl, rfl⟩ compiled
  rw [Text.byteLength_replicate, size, Expr.sizeLimit] at small
  omega

end Pattern

end RoutePattern
