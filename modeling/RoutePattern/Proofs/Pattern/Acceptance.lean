import RoutePattern.Proofs.Expr.Limit
import RoutePattern.Proofs.Pattern.Compiled
import RoutePattern.Proofs.Token.Ending

/-! # Which paths a pattern accepts

A pattern without fragments accepts the paths that its tokens tell of, with what the options let
follow (`Pattern.accepts_iff`), unless the search for the path reaches one of its two limits: it has come
back too often to ways that waited, or too many ways wait at once. That is possible only where something
may follow the match or the match may end before the path does.
-/

namespace RoutePattern

namespace Token

variable {o : Options} {ts : List Token} {path : Text}

/-- A path divides into one piece for each token, a delimiter that may stand at the end, and what may
follow. -/
def Divides (o : Options) (ts : List Token) (path : Text) : Prop :=
  ∃ m d r, path = m ++ d ++ r ∧ m ∈ languageOf o ts ∧ o.closes ts d r

/-- Where nothing else must follow, the pieces for the tokens are enough. -/
theorem divides_of_mem_languageOf (told : path ∈ languageOf o ts) (whole : o.anchoredEnd = true) :
    Divides o ts path := by
  refine ⟨path, [], [], by simp, told, .inl rfl, ?_⟩
  rw [if_pos whole]
  exact Options.opens_nil

/-- There is a way through a whole pattern where a path divides into pieces for the tokens and what
may follow them. -/
theorem exists_whole_way_iff (asWritten : o.encode = .identity) (path : Text) :
    (∃ u, u ∈ Expr.waysThrough (exprs o 0 ts ++ o.endingExprs ts) (.ofPlace (.start path))) ↔
      Divides o ts path := by
  simp only [Expr.waysThrough_append, List.mem_flatMap]
  constructor
  · rintro ⟨u, v, inside, way⟩
    obtain ⟨m, told, passed⟩ := (exists_way_iff asWritten ts (.start path) v.place).1 ⟨v, inside, rfl⟩
    obtain ⟨rest, after, behind⟩ := Place.pass?_eq_some.1 passed
    obtain ⟨d, r, left, closed⟩ := (Options.exists_ending_iff ts).1 ⟨u, way⟩
    refine ⟨m, d, r, ?_, told, closed⟩
    have rest_eq : rest = d ++ r := by rw [← left, behind]
    rw [List.append_assoc, ← rest_eq, ← after]
    rfl
  · rintro ⟨m, d, r, rfl, told, closed⟩
    have passed : (Place.start (m ++ d ++ r)).pass? m =
        some ⟨m.length, m.reverse, d ++ r⟩ :=
      Place.pass?_eq_some.2 ⟨d ++ r, List.append_assoc m d r, by simp [Place.start]⟩
    obtain ⟨v, inside, place⟩ := (exists_way_iff asWritten ts _ _).2 ⟨m, told, passed⟩
    obtain ⟨u, way⟩ := (Options.exists_ending_iff (t := v) ts).2 ⟨d, r, by rw [place], closed⟩
    exact ⟨u, v, inside, way⟩

end Token

namespace Pattern

/-- A search that is given up counts as a mismatch. -/
theorem not_accepts_of_gaveUp {p : Pattern} {path : Text}
    (gaveUp : p.matcher.program.search path = .gaveUp) : p.accepts path = false := by
  simp [accepts, Matcher.accepts, Matcher.match?, Program.find?, gaveUp, Outcome.found?]

/-- A pattern accepts a path where its search is not given up and the path divides into one piece for
each token, a delimiter that may stand at the end, and what may follow. Nothing is given up where a
match must end with the path. -/
theorem accepts_iff {o : Options} {text : Text} {p : Pattern}
    (plain : Lexeme.withoutFragments text = true) (compiled : ofText o text = .ok p)
    (anchored : o.anchoredStart = true) (asWritten : o.encode = .identity) (path : Text) :
    (p.accepts path = true ↔
      p.matcher.program.search path ≠ .gaveUp ∧ Token.Divides o p.tokens path) ∧
    (o.anchoredEnd = true → o.endsWith = [] → p.matcher.program.search path ≠ .gaveUp) := by
  obtain ⟨ts, of, simple, -⟩ := ofText_of plain compiled
  rw [of.tokens]
  refine ⟨?_, fun whole last => Token.search_ne_gaveUp simple of.matcher.program whole last path⟩
  rw [← Token.exists_whole_way_iff asWritten]
  by_cases gaveUp : p.matcher.program.search path = .gaveUp
  · simp [gaveUp, not_accepts_of_gaveUp gaveUp]
  · have accepted : p.accepts path = (p.matcher.program.find? path).isSome := by
      simp [accepts, Matcher.accepts, Matcher.match?]
    rw [accepted, Token.find?_eq simple anchored of.matcher.program gaveUp]
    simp only [ne_eq, gaveUp, not_false_eq_true, true_and, Option.isSome_map, List.isSome_head?]
    constructor
    · exact List.exists_mem_of_ne_nil _
    · rintro ⟨u, way⟩
      exact List.ne_nil_of_mem way

theorem accepts_iff_page : ∃ p, ofText {} "/:page".toList = .ok p ∧
    Token.Divides {} p.tokens "/Home/".toList := by
  have evaluated : (ofText {} "/:page".toList).toOption.map (·.accepts "/Home/".toList) =
      some true := by decide +kernel
  obtain ⟨p, found, accepted⟩ := Option.map_eq_some_iff.1 evaluated
  have compiled := eq_ok_of_toOption found
  exact ⟨p, compiled, ((accepts_iff (by decide +kernel) compiled rfl rfl _).1.1 accepted).2⟩

/-! ## Searches that are given up -/

section GivenUp

/-- A character may follow a match, so that a match is searched for. -/
def followed : Options := { endsWith := ['#'] }

/-- A group of the letter alone. -/
def letterGroup (m : Modifier) : Token := .param ⟨.named [], ['a'], [], [], some m⟩

/-- A delimiter that may be left out, and then the character or the end of the path. -/
def followedPlan : Plan :=
  .seq (.rep (.settle (followed.classExpr followed.delimiter)) 0 (some 1) true false)
    (.ahead false (.settle followed.stopExpr))

/-- Optional groups of the letter, and as many letters behind them. -/
def doubling (n : Nat) : Text :=
  (List.replicate n "{a}?".toList).flatten ++ List.replicate n 'a'

variable {text path : Text} {n : Nat}

/-- A pattern whose search is given up does not accept a path that its tokens tell of. -/
theorem exists_refuses {ts : List Token} {program : Program}
    (evaluated : (ofText followed text).toOption.map (fun p => (p.tokens, p.matcher.program)) =
      some (ts, program))
    (gaveUp : program.search path = .gaveUp) (told : path ∈ Token.languageOf followed ts) :
    ∃ p, ofText followed text = .ok p ∧ p.accepts path = false ∧
      Token.Divides followed p.tokens path := by
  obtain ⟨p, found, same⟩ := Option.map_eq_some_iff.1 evaluated
  obtain ⟨rfl, rfl⟩ := Prod.mk.inj same
  exact ⟨p, eq_ok_of_toOption found, not_accepts_of_gaveUp gaveUp,
    Token.divides_of_mem_languageOf told rfl⟩

theorem has_of_mem_letters : ∀ c ∈ List.replicate n 'a', (CharSet.literal true 'a').has c = true := by
  intro c member
  rw [List.eq_of_mem_replicate member]
  decide

theorem mem_language_letterGroup {m : Modifier} (allowed : Modifier.allows (some m) n) :
    List.replicate n 'a' ∈ Token.language followed (letterGroup m) := by
  refine ⟨n, allowed, Language.mem_pow.2 ⟨List.replicate n ['a'], ?_, List.length_replicate, ?_⟩⟩
  · exact List.flatten_replicate_singleton.symm
  · intro once member
    rw [List.eq_of_mem_replicate member]
    have spelled : ['a'] ∈ followed.spelling ['a'] := followed.mem_spelling_self _
    have nothing : ([] : Text) ∈ followed.spelling [] := followed.mem_spelling_self _
    exact Language.mem_mul.2 ⟨['a'], Language.mem_mul.2 ⟨_, spelled, [], rfl, rfl⟩, [], nothing, rfl⟩

/-- Twice as many returns are needed for each group. -/
theorem exists_refuses_doubling : ∃ p, ofText followed (doubling 24) = .ok p ∧
    p.accepts (List.replicate 24 'a') = false ∧
    Token.Divides followed p.tokens (List.replicate 24 'a') := by
  have evaluated : (ofText followed (doubling 24)).toOption.map
      (fun p => (p.tokens, p.matcher.program)) =
      some (List.replicate 24 (letterGroup .optional) ++ [.text (List.replicate 24 'a')],
        .planned (.seq (.settle (.anchor .textStart))
          (.optionals (.literal true 'a') 24 (.characters (.literal true 'a') 24 followedPlan)))) := by
    decide +kernel
  refine exists_refuses evaluated ?_ ?_
  · exact Program.search_optionals_gaveUp (n := 23) has_of_mem_letters List.length_replicate
      (by decide) (by decide)
  · -- Every group may be left out.
    have groups : ([] : Text) ∈ Token.language followed (letterGroup .optional) ^ 24 :=
      Language.mem_pow.2 ⟨List.replicate 24 [], rfl, rfl, fun once member => by
        rw [List.eq_of_mem_replicate member]
        exact mem_language_letterGroup (n := 0) (Nat.zero_le 1)⟩
    have letters : List.replicate 24 'a' ∈ Token.language followed (.text (List.replicate 24 'a')) :=
      followed.mem_spelling_self _
    rw [Token.languageOf, List.map_append, List.prod_append, List.map_replicate, List.prod_replicate,
      List.map_singleton, List.prod_singleton]
    exact Language.mem_mul.2 ⟨[], groups, _, letters, rfl⟩

/-- A way waits behind each repetition of the group. -/
theorem exists_refuses_repeated (long : Program.waitingLimit ≤ n + 1) :
    ∃ p, ofText followed "{a}*".toList = .ok p ∧ p.accepts (List.replicate n 'a') = false ∧
      Token.Divides followed p.tokens (List.replicate n 'a') := by
  have evaluated : (ofText followed "{a}*".toList).toOption.map
      (fun p => (p.tokens, p.matcher.program)) =
      some ([letterGroup .zeroOrMore], .planned (.seq (.settle (.anchor .textStart))
        (.seq (.anyNumber (.literal true 'a')) followedPlan))) := by
    decide +kernel
  refine exists_refuses evaluated ?_ ?_
  · exact Program.search_anyNumber_gaveUp has_of_mem_letters (by rwa [List.length_replicate])
  · rw [Token.languageOf, List.map_singleton, List.prod_singleton]
    exact mem_language_letterGroup trivial

/-- Both limits leave out a path that divides: one of twenty-four letters, and one of as many letters as
ways may wait. -/
theorem not_accepts_of_limits :
    (Lexeme.withoutFragments (doubling 24) = true ∧
      ∃ p, ofText { endsWith := ['#'] } (doubling 24) = .ok p ∧
        p.accepts (List.replicate 24 'a') = false ∧
        Token.Divides { endsWith := ['#'] } p.tokens (List.replicate 24 'a')) ∧
    Lexeme.withoutFragments "{a}*".toList = true ∧
      ∃ p, ofText { endsWith := ['#'] } "{a}*".toList = .ok p ∧
        p.accepts (List.replicate 1000000 'a') = false ∧
        Token.Divides { endsWith := ['#'] } p.tokens (List.replicate 1000000 'a') :=
  ⟨⟨by decide +kernel, exists_refuses_doubling⟩, by decide +kernel,
    exists_refuses_repeated (Nat.le_succ 1000000)⟩

end GivenUp

end Pattern

end RoutePattern
