import RoutePattern.Proofs.Pattern.Quoted

/-! # A matcher of several patterns

Patterns without fragments that compile one by one compile together if the expression of all of them
is not too large, and the matcher of all of them answers what the first one that matches the path
answers (`Matcher.exists_ofPatterns_match?`).

The ways of the joint expression are those of the first pattern, then those of the second one, and so
on, and a way through one pattern captures none of the groups of the others. So its parameters are
those that the pattern gives alone.
-/

namespace RoutePattern

open RoutePattern.Expr (enclosed ofAlternatives ofParts)
open Token (jointExpr memberExpr memberExprs)

namespace Matcher

/-! ## Parameters of several lists of keys -/

section Params

variable {decode : Codec} {found found' : Found} {group group' : Nat} {ks : List Key}

theorem paramsFrom_append (ks ks' : List Key) (params : Params) :
    paramsFrom decode found group (ks ++ ks') params =
      paramsFrom decode found (group + ks.length) ks' (paramsFrom decode found group ks params) := by
  induction ks generalizing group params with
  | nil => rfl
  | cons k ks ih =>
    rw [List.cons_append, paramsFrom, paramsFrom, ih, List.length_cons, Nat.add_assoc,
      Nat.add_comm 1]

/-- Keys whose groups took no part give nothing. -/
theorem paramsFrom_none (absent : ∀ i < ks.length, found.group? (group + i) = none)
    (params : Params) : paramsFrom decode found group ks params = params := by
  induction ks generalizing group with
  | nil => rfl
  | cons k ks ih =>
    have here : found.group? group = none := absent 0 (Nat.zero_lt_succ _)
    have later : ∀ i < ks.length, found.group? (group + 1 + i) = none := by
      intro i inside
      have one := absent (i + 1) (Nat.succ_lt_succ inside)
      rwa [← Nat.add_assoc, Nat.add_right_comm] at one
    rw [paramsFrom, here]
    exact ih later

/-- The values come from the texts of the groups alone. -/
theorem paramsFrom_congr
    (same : ∀ i < ks.length, found.group? (group + i) = found'.group? (group' + i))
    (params : Params) :
    paramsFrom decode found group ks params = paramsFrom decode found' group' ks params := by
  induction ks generalizing group group' params with
  | nil => rfl
  | cons k ks ih =>
    have here : found.group? group = found'.group? group' := same 0 (Nat.zero_lt_succ _)
    have later : ∀ i < ks.length, found.group? (group + 1 + i) = found'.group? (group' + 1 + i) := by
      intro i inside
      have one := same (i + 1) (Nat.succ_lt_succ inside)
      rwa [← Nat.add_assoc, Nat.add_right_comm, ← Nat.add_assoc, Nat.add_right_comm group'] at one
    rw [paramsFrom, paramsFrom, here]
    exact ih later _

end Params

/-! ## Matches from the ways of an expression -/

variable {o : Options} {path : Text}

/-- The match of a way from the start of a path. -/
def matchOf (decode : Codec) (path : Text) (group : Nat) (ks : List Key) (t : Thread) : Match :=
  let found : Found := ⟨.start path, t⟩
  ⟨found.text, found.start.byteOffset, paramsFrom decode found group ks .empty⟩

/-- A matcher answers with the first way through its expression. -/
theorem match?_eq_ways {m : Matcher} {e : Expr} {groups : Nat} (tame : e.tame = true)
    (program : Program.ofNotated? ⟨e, groups, []⟩ = some m.program)
    (anchored : ∀ t : Thread, t.place.before ≠ [] → e.ways t = [])
    (finished : m.program.search path ≠ .gaveUp) :
    m.match? path =
      (e.ways (.ofPlace (.start path))).head?.map (matchOf m.decode path 1 m.keys) := by
  rw [match?, Program.find?_anchored tame program anchored finished, Option.map_map]
  rfl

/-- A way through a member starts at the start of the path. -/
theorem ways_memberExpr_behind (anchored : o.anchoredStart = true) (groups : Nat) (ts : List Token)
    {t : Thread} (moved : t.place.before ≠ []) : (memberExpr o groups ts).ways t = [] := by
  rw [Token.memberExpr_eq, anchored, if_pos rfl, Expr.ways_ofParts, List.append_assoc,
    List.singleton_append, Expr.waysThrough, Expr.ways, Anchor.holds, if_neg (by simpa using moved)]
  rfl

/-- What is captured on a way from a place. -/
theorem capture?_of_way {e : Expr} {p : Place} {u : Thread} {n : Nat} (foreign : n ∉ e.groups)
    (way : u ∈ e.ways (.ofPlace p)) : u.capture? n = none :=
  Expr.ways_capture? foreign way

theorem groups_lt_of_mem_memberExprs {groups : Nat} {tss : List (List Token)} {e : Expr}
    (member : e ∈ memberExprs o groups tss) {n : Nat} (inside : n ∈ e.groups) : groups < n := by
  induction tss generalizing groups with
  | nil => cases member
  | cons ts tss ih =>
    cases List.mem_cons.1 member with
    | inl here =>
      subst here
      rw [Token.groups_memberExpr, List.mem_range'_1] at inside
      omega
    | inr later =>
      have behind := ih later
      rw [Token.groupsBehind_eq] at behind
      omega

/-- The first way through the members of an alternation gives the match of the first member that has a
way. -/
theorem head?_memberExprs {tss : List (List Token)} {ms : List Matcher}
    (alone : List.Forall₂ (fun ts m => m.match? path =
      ((ofParts (Token.wholeExprs o ts)).ways (.ofPlace (.start path))).head?.map
        (matchOf o.decode path 1 (Token.keys ts))) tss ms) (groups : Nat) :
    ((memberExprs o groups tss).flatMap (·.ways (.ofPlace (.start path)))).head?.map
        (matchOf o.decode path (groups + 1) (tss.flatMap Token.keys)) =
      ms.findSome? (·.match? path) := by
  induction alone generalizing groups with
  | nil => rfl
  | @cons ts m tss ms first _ ih =>
    have ways : (memberExpr o groups ts).ways (.ofPlace (.start path)) =
        ((ofParts (Token.wholeExprs o ts)).ways (.ofPlace (.start path))).map (.renumber groups) :=
      (ofParts (Token.wholeExprs o ts)).ways_renumber (.ofPlace (.start path))
    rw [memberExprs, List.flatMap_cons, List.flatMap_cons, List.head?_append, List.findSome?_cons,
      first]
    cases answer : ((ofParts (Token.wholeExprs o ts)).ways (.ofPlace (.start path))).head? with
    | some t =>
      -- The way captures its own groups, and nothing for the keys of the members behind it.
      have member : t.renumber groups ∈ (memberExpr o groups ts).ways (.ofPlace (.start path)) := by
        rw [ways]
        exact List.mem_map_of_mem (List.mem_of_head? answer)
      have own : ∀ i < (Token.keys ts).length,
          (⟨.start path, t.renumber groups⟩ : Found).group? (groups + 1 + i) =
            (⟨.start path, t⟩ : Found).group? (1 + i) := by
        intro i _
        have shift : groups + 1 + i = 1 + i + groups := by omega
        rw [shift]
        exact Thread.text?_renumber (1 + i)
      have others : ∀ i < (tss.flatMap Token.keys).length,
          (⟨.start path, t.renumber groups⟩ : Found).group?
            (groups + 1 + (Token.keys ts).length + i) = none := by
        intro i _
        have foreign : groups + 1 + (Token.keys ts).length + i ∉ (memberExpr o groups ts).groups := by
          rw [Token.groups_memberExpr, List.mem_range'_1]
          omega
        rw [Found.group?, Thread.text?, capture?_of_way foreign member, Option.bind_none]
      have head : ((memberExpr o groups ts).ways (.ofPlace (.start path))).head? =
          some (t.renumber groups) := by
        rw [ways, List.head?_map, answer, Option.map_some]
      rw [head, Option.some_or, Option.map_some, Option.map_some, matchOf, paramsFrom_append,
        paramsFrom_none others, paramsFrom_congr own]
      rfl
    | none =>
      have head : ((memberExpr o groups ts).ways (.ofPlace (.start path))).head? = none := by
        rw [ways, List.head?_map, answer, Option.map_none]
      rw [head, Option.none_or, Option.map_none, ← ih (Token.groupsBehind groups ts),
        Token.groupsBehind_eq]
      refine Option.map_congr fun u found => ?_
      obtain ⟨e, listed, way⟩ := List.mem_flatMap.1 (List.mem_of_head? found)
      -- A way through a later member captures nothing for the keys of this one.
      have absent : ∀ i < (Token.keys ts).length,
          (⟨.start path, u⟩ : Found).group? (groups + 1 + i) = none := by
        intro i inside
        have foreign : groups + 1 + i ∉ e.groups := by
          intro captured
          have behind := groups_lt_of_mem_memberExprs listed captured
          omega
        rw [Found.group?, Thread.text?, capture?_of_way foreign way, Option.bind_none]
      rw [matchOf, matchOf, paramsFrom_append, paramsFrom_none absent,
        Nat.add_right_comm groups 1]

/-! ## Several patterns -/

theorem exists_of_mem_memberExprs {groups : Nat} {tss : List (List Token)} {e : Expr}
    (member : e ∈ memberExprs o groups tss) :
    ∃ ts ∈ tss, ∃ groups', e = memberExpr o groups' ts := by
  induction tss generalizing groups with
  | nil => cases member
  | cons ts tss ih =>
    cases List.mem_cons.1 member with
    | inl here => exact ⟨ts, List.mem_cons_self, groups, here⟩
    | inr later =>
      obtain ⟨ts', listed, found⟩ := ih later
      exact ⟨ts', List.mem_cons_of_mem ts listed, found⟩

/-- The matchers of patterns without fragments are those of their tokens. -/
theorem forall₂_of {patterns : List Text} {tss : List (List Token)} {ms : List Matcher}
    (plain : ∀ p ∈ patterns, Lexeme.withoutFragments p = true)
    (read : List.Forall₂ (fun p ts => Token.ofPattern? o p = .ok ts) patterns tss)
    (each : List.Forall₂ (fun p m => ofPattern o p = .ok m) patterns ms) :
    List.Forall₂ (fun ts m => Token.simple o ts = true ∧ m.Of o ts) tss ms := by
  induction read generalizing ms with
  | nil =>
    cases each
    exact .nil
  | @cons p ts patterns tss here _ ih =>
    cases each with
    | cons first later =>
      rw [List.forall_mem_cons] at plain
      rw [ofPattern, here] at first
      exact .cons ⟨Token.simple_of_plain (Token.plain_ofPattern plain.1 here), ofTokens_of first⟩
        (ih plain.2 later)

section Joint

variable {tss : List (List Token)} {ms : List Matcher}
  (made : List.Forall₂ (fun ts m => Token.simple o ts = true ∧ m.Of o ts) tss ms)
include made

/-- The program of the alternation of tokens that compile one by one. -/
theorem exists_ofSource_alternation (filled : tss ≠ []) (anchored : o.anchoredStart = true)
    (small : (jointExpr o tss).needsSearch [] = true ∨
      (jointExpr o tss).programSize ≤ Expr.sizeLimit) :
    ∃ p, Program.ofSource o (alternation (tss.map (Token.sourceOf o))) = .ok p ∧
      Program.ofNotated? ⟨jointExpr o tss, (tss.flatMap Token.keys).length, []⟩ = some p := by
  have compiled : ∀ ts ∈ tss, Token.simple o ts = true ∧ Token.solid o ts = true ∧
      ∃ groups p, Program.ofNotated? ⟨ofParts (Token.wholeExprs o ts), groups, []⟩ = some p := by
    intro ts listed
    obtain ⟨m, -, simple, of⟩ := exists_related made listed
    obtain ⟨solid, program⟩ := Token.program_eq simple of.program
    exact ⟨simple, solid, _, m.program, program⟩
  have read := Token.read?_alternation filled anchored (fun ts listed => (compiled ts listed).1)
    fun ts listed => (compiled ts listed).2.1
  have each : ∀ e ∈ memberExprs o 0 tss, e.tame = true ∧ e.isLive = true ∧
      ∃ groups, (Program.ofNotated? ⟨e, groups, []⟩).isSome = true := by
    intro e member
    obtain ⟨ts, listed, groups, rfl⟩ := exists_of_mem_memberExprs member
    obtain ⟨-, -, groups', p, program⟩ := compiled ts listed
    refine ⟨Token.tame_memberExpr o groups ts, Token.isLive_memberExpr o groups ts, groups', ?_⟩
    rw [memberExpr, Expr.isSome_ofNotated?_renumber (Token.tame_whole o ts) groups' groups', program]
    rfl
  have joint : ∃ p, Program.ofNotated? ⟨jointExpr o tss, (tss.flatMap Token.keys).length, []⟩ = some p :=
    Expr.exists_ofNotated?_ofAlternatives (fun e member => (each e member).1)
      (fun e member => (each e member).2.1) (fun e member => (each e member).2.2) small _
  obtain ⟨p, program⟩ := joint
  refine ⟨p, ?_, program⟩
  rw [Program.ofSource, Program.ofText?, read, Option.bind_some, program]

/-- What each of the matchers answers. -/
theorem forall₂_match? (anchored : o.anchoredStart = true)
    (finished : ∀ m ∈ ms, m.program.search path ≠ .gaveUp) :
    List.Forall₂ (fun ts m => m.match? path =
      ((ofParts (Token.wholeExprs o ts)).ways (.ofPlace (.start path))).head?.map
        (matchOf o.decode path 1 (Token.keys ts))) tss ms := by
  induction made with
  | nil => exact .nil
  | @cons ts m tss ms first _ ih =>
    rw [List.forall_mem_cons] at finished
    obtain ⟨simple, of⟩ := first
    refine .cons ?_ (ih finished.2)
    have behind : ∀ t : Thread, t.place.before ≠ [] → (ofParts (Token.wholeExprs o ts)).ways t = [] :=
      fun t moved => by rw [Token.ways_anchored ts anchored, if_neg moved]
    rw [match?_eq_ways (Token.tame_whole o ts) (Token.program_eq simple of.program).2 behind
      finished.1, of.keys, of.decode]

end Joint

theorem tame_alternation (o : Options) (tss : List (List Token)) :
    (jointExpr o tss).tame = true := by
  rw [jointExpr, Expr.tame, Expr.tame_ofAlternatives, List.all_eq_true]
  intro e member
  obtain ⟨ts, -, groups, rfl⟩ := exists_of_mem_memberExprs member
  exact Token.tame_memberExpr o groups ts

theorem needsSearch_alternation (whole : o.anchoredEnd = true) (last : o.endsWith = [])
    (tss : List (List Token)) :
    (jointExpr o tss).needsSearch [] = false := by
  rw [jointExpr, Expr.needsSearch, Expr.needsSearch_ofAlternatives, List.any_eq_false]
  intro e member
  obtain ⟨ts, -, groups, rfl⟩ := exists_of_mem_memberExprs member
  rw [memberExpr, Expr.needsSearch_renumber, Token.needsSearch_whole ts whole last]
  exact Bool.false_ne_true

/-- Patterns without fragments that compile one by one also compile together, and what matches a path
is the first of them that matches it, with its parameters. The expression of all of them must need a
search or stay within the limit on sizes, as far as `programSize` tells: it is exact for literal texts that
tell case apart, and else a lower bound, so each list whose program fits is among these. The match is that of the first pattern unless a search for
the path is given up, and none is where a match must end with the path. -/
theorem exists_ofPatterns_match? {patterns : List Text} {tss : List (List Token)} {ms : List Matcher}
    (filled : patterns ≠ []) (plain : ∀ p ∈ patterns, Lexeme.withoutFragments p = true)
    (anchored : o.anchoredStart = true)
    (read : List.Forall₂ (fun p ts => Token.ofPattern? o p = .ok ts) patterns tss)
    (each : List.Forall₂ (fun p m => ofPattern o p = .ok m) patterns ms)
    (small : (jointExpr o tss).needsSearch [] = true ∨
      (jointExpr o tss).programSize ≤ Expr.sizeLimit) :
    ∃ m, ofPatterns o patterns = .ok m ∧
      (∀ path, m.program.search path ≠ .gaveUp → (∀ m' ∈ ms, m'.program.search path ≠ .gaveUp) →
        m.match? path = ms.findSome? (·.match? path) ∧
        (m.match? path = none ↔ ∀ m' ∈ ms, m'.match? path = none)) ∧
      (o.anchoredEnd = true → o.endsWith = [] →
        ∀ m' ∈ m :: ms, ∀ path, m'.program.search path ≠ .gaveUp) := by
  have made := forall₂_of plain read each
  have filled' : tss ≠ [] := by
    rintro rfl
    exact filled (List.forall₂_nil_right_iff.1 read)
  obtain ⟨p, source, program⟩ := exists_ofSource_alternation made filled' anchored small
  let m : Matcher := ⟨o.withCase (alternation (tss.map (Token.sourceOf o))), p,
    tss.flatMap Token.keys, tss.all Token.arePlain, o.decode⟩
  have tame := tame_alternation o tss
  refine ⟨m, ?_, fun path finished finished' => ?_, fun whole last => ?_⟩
  · rw [ofPatterns, mapM_eq_ok_iff.2 read]
    simp only [bind, Except.bind, ofSource, source]
    rfl
  · have members : ∀ t, (jointExpr o tss).ways t =
        (memberExprs o 0 tss).flatMap (·.ways t) :=
      Expr.ways_ofAlternatives (Token.memberExprs_ne_nil filled')
    have behind : ∀ t : Thread, t.place.before ≠ [] → (jointExpr o tss).ways t = [] := by
      intro t moved
      rw [members, List.flatMap_eq_nil_iff]
      intro e member
      obtain ⟨ts, -, groups, rfl⟩ := exists_of_mem_memberExprs member
      exact ways_memberExpr_behind anchored groups ts moved
    have joint : m.match? path = ms.findSome? (·.match? path) := by
      rw [match?_eq_ways (m := m) tame program behind finished, members]
      exact head?_memberExprs (forall₂_match? made anchored finished') 0
    exact ⟨joint, by rw [joint, List.findSome?_eq_none_iff]⟩
  · rw [List.forall_mem_cons]
    refine ⟨Program.search_ne_gaveUp (needsSearch_alternation whole last tss) program, ?_⟩
    intro m' member
    obtain ⟨ts, -, simple, of⟩ := exists_related made.flip member
    exact Token.search_ne_gaveUp simple of.program whole last

/-- The first pattern does not match the path, and the second one gives its parameter. -/
theorem exists_ofPatterns_match?_second : ∃ m first second,
    ofPattern {} "/user/:name".toList = .ok first ∧ ofPattern {} "/:page".toList = .ok second ∧
      ofPatterns {} ["/user/:name".toList, "/:page".toList] = .ok m ∧
      first.match? "/home".toList = none ∧
      m.match? "/home".toList =
        some ⟨"/home".toList, 0, ⟨[(.named "page".toList, .single "home".toList)]⟩⟩ := by
  have first : (ofPattern {} "/user/:name".toList).toOption.map (·.match? "/home".toList) =
      some none := by decide +kernel
  have second : (ofPattern {} "/:page".toList).toOption.map (·.match? "/home".toList) =
      some (some ⟨"/home".toList, 0, ⟨[(.named "page".toList, .single "home".toList)]⟩⟩) := by
    decide +kernel
  obtain ⟨m₁, found, missed⟩ := Option.map_eq_some_iff.1 first
  obtain ⟨m₂, found', matched⟩ := Option.map_eq_some_iff.1 second
  have each : List.Forall₂ (fun p m => ofPattern {} p = .ok m)
      ["/user/:name".toList, "/:page".toList] [m₁, m₂] :=
    .cons (eq_ok_of_toOption found) (.cons (eq_ok_of_toOption found') .nil)
  let segment := Options.segment {}
  let user : List Token := [.text "/user".toList, .param ⟨.named "name".toList, ['/'], [], segment, none⟩]
  let page : List Token := [.param ⟨.named "page".toList, ['/'], [], segment, none⟩]
  have read : List.Forall₂ (fun p ts => Token.ofPattern? {} p = .ok ts)
      ["/user/:name".toList, "/:page".toList] [user, page] :=
    .cons (eq_ok_of_toOption (by decide +kernel)) (.cons (eq_ok_of_toOption (by decide +kernel)) .nil)
  obtain ⟨m, compiled, answers, finished⟩ :=
    exists_ofPatterns_match? (List.cons_ne_nil _ _) (by decide +kernel) rfl read each
      (.inr (by decide +kernel))
  have joint := answers "/home".toList (finished rfl rfl m List.mem_cons_self _)
    fun m' member => finished rfl rfl m' (List.mem_cons_of_mem m member) _
  refine ⟨m, m₁, m₂, eq_ok_of_toOption found, eq_ok_of_toOption found', compiled, missed, ?_⟩
  rw [joint.1, List.findSome?_cons, missed, List.findSome?_cons, matched]

/-! ## Too much for one expression -/

/-- Patterns that compile together need a search or stay within the limit on sizes. -/
theorem small_of_ofPatterns {patterns : List Text} {tss : List (List Token)} {m : Matcher}
    (filled : tss ≠ []) (anchored : o.anchoredStart = true)
    (read : List.Forall₂ (fun p ts => Token.ofPattern? o p = .ok ts) patterns tss)
    (simple : ∀ ts ∈ tss, Token.simple o ts = true) (solid : ∀ ts ∈ tss, Token.solid o ts = true)
    (compiled : ofPatterns o patterns = .ok m) :
    (jointExpr o tss).needsSearch [] = true ∨ (jointExpr o tss).programSize ≤ Expr.sizeLimit := by
  simp only [ofPatterns, mapM_eq_ok_iff.2 read, ofSource, bind_eq_ok_iff] at compiled
  obtain ⟨_, same, p, program, -⟩ := compiled
  obtain rfl := Except.ok.inj same
  rw [Program.ofSource, Program.ofText?, Token.read?_alternation filled anchored simple solid,
    Option.bind_some, Program.ofNotated?] at program
  by_cases needed : (jointExpr o tss).needsSearch [] = true
  · exact .inl needed
  · rw [if_neg needed] at program
    by_cases settleable : (jointExpr o tss).isSettleable = true
    · simp only [Expr.isSettleable, Bool.and_eq_true, decide_eq_true_eq] at settleable
      exact .inr settleable.2
    · rw [if_neg settleable] at program
      cases program

/-- Two texts that start with different letters have an expression in which hardly a step is shared. -/
theorem le_programSize_joint (bare : o.Bare) {c d : Char}
    (differ : Unicode.sameUpToCase c d = false) (s s' : Text) :
    Text.byteLength (c :: s) + Text.byteLength (d :: s') ≤
      (jointExpr o [Token.ofText (c :: s), Token.ofText (d :: s')]).programSize := by
  have apart : (memberExpr o 0 (Token.ofText (c :: s))).startApart
      (memberExpr o (Token.groupsBehind 0 (Token.ofText (c :: s))) (Token.ofText (d :: s'))) = true := by
    simp [Expr.startApart, memberExpr, bare.initials?, differ]
  simp only [jointExpr, memberExprs, ofAlternatives, Expr.programSize, Expr.writtenSize, if_pos apart]
  simp only [memberExpr, Expr.writtenSize_renumber, bare.writtenSize]
  omega

theorem not_exists_ofPatterns_large :
    let o : Options := { sensitive := true, strict := true }
    let ones := Text.quoted (List.replicate 300000 '1')
    let twos := Text.quoted (List.replicate 300000 '2')
    (∀ p ∈ [ones, twos], Lexeme.withoutFragments p = true ∧ ∃ m, ofPattern o p = .ok m) ∧
      ¬∃ m, ofPatterns o [ones, twos] = .ok m := by
  intro o ones twos
  have bare : o.Bare := ⟨rfl, rfl, rfl, rfl, rfl, rfl⟩
  have digit : '1'.utf8Size = 1 ∧ '2'.utf8Size = 1 := ⟨rfl, rfl⟩
  constructor
  · have alone : ∀ c : Char, c.utf8Size = 1 →
        ∃ m, ofPattern o (Text.quoted (List.replicate 300000 c)) = .ok m := by
      intro c size
      have small : (ofParts (Token.wholeExprs o (Token.ofText (List.replicate 300000 c)))).programSize ≤
          Expr.sizeLimit := by
        rw [bare.programSize, Text.byteLength_replicate, size, Expr.sizeLimit]
        omega
      obtain ⟨m, compiled⟩ := exists_ofTokens (Token.simple_ofText _) (Token.solid_ofText _) small
      exact ⟨m, by rw [ofPattern, Token.ofPattern?_quoted]; exact compiled⟩
    rw [List.forall_mem_cons, List.forall_mem_singleton]
    exact ⟨⟨Lexeme.withoutFragments_quoted _, alone '1' digit.1⟩,
      Lexeme.withoutFragments_quoted _, alone '2' digit.2⟩
  · rintro ⟨m, compiled⟩
    let tss := [Token.ofText (List.replicate 300000 '1'), Token.ofText (List.replicate 300000 '2')]
    have read : List.Forall₂ (fun p ts => Token.ofPattern? o p = .ok ts) [ones, twos] tss :=
      .cons (Token.ofPattern?_quoted o _) (.cons (Token.ofPattern?_quoted o _) .nil)
    have listed : ∀ ts ∈ tss, ∃ s, ts = Token.ofText s := by
      rw [List.forall_mem_cons, List.forall_mem_singleton]
      exact ⟨⟨_, rfl⟩, _, rfl⟩
    have simple : ∀ ts ∈ tss, Token.simple o ts = true := by
      rintro ts member
      obtain ⟨s, rfl⟩ := listed ts member
      exact Token.simple_ofText s
    have solid : ∀ ts ∈ tss, Token.solid o ts = true := by
      rintro ts member
      obtain ⟨s, rfl⟩ := listed ts member
      exact Token.solid_ofText s
    have small := small_of_ofPatterns (List.cons_ne_nil _ _) rfl read simple solid compiled
    have joint := le_programSize_joint bare (c := '1') (d := '2') (by decide +kernel)
      (List.replicate 299999 '1') (List.replicate 299999 '2')
    rw [← List.replicate_succ, ← List.replicate_succ, Text.byteLength_replicate,
      Text.byteLength_replicate, digit.1, digit.2] at joint
    have large := joint.trans (small.resolve_left (by
      rw [needsSearch_alternation rfl rfl]
      exact Bool.false_ne_true))
    rw [Expr.sizeLimit] at large
    omega

end Matcher

end RoutePattern
