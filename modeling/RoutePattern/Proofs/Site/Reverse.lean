import RoutePattern.Proofs.Pattern.Reverse
import RoutePattern.Proofs.Site.Ledger

/-! # Reverse routing

A path that a router builds for one of its entries resolves back (`resolves_built`): it starts with the
prefix of the router, and the first entry that matches it is the one that it was built for or stands
before that.
-/

namespace RoutePattern

variable {M : Type}

namespace Prefix

variable {p : Prefix} {t : Text}

theorem apply_of_prefix (starts : p.text <+: t) : p.apply t = t := by
  obtain ⟨rest, rfl⟩ := starts
  exact p.apply_of_start rest

/-- What a prefix is applied to starts with it. -/
theorem exists_apply_eq (p : Prefix) (t : Text) :
    ∃ rest, p.apply t = p.text ++ rest ∧ (rest = t ∨ p.apply t = t) := by
  unfold apply
  split
  · next starts =>
    obtain ⟨rest, rfl⟩ := List.isPrefixOf_iff_prefix.1 starts
    exact ⟨rest, rfl, .inr rfl⟩
  · exact ⟨t, rfl, .inl rfl⟩

theorem withoutFragments_apply (p : Prefix) (inert : Lexeme.Inert p.text)
    (plain : Lexeme.withoutFragments t = true) : Lexeme.withoutFragments (p.apply t) = true := by
  obtain ⟨rest, same, rfl | unchanged⟩ := p.exists_apply_eq t
  · rw [same]
    exact Lexeme.withoutFragments_append inert plain
  · rwa [unchanged]

end Prefix

/-- A path of a pattern with a prefix starts with the prefix. -/
theorem Pattern.prefix_build {o : Options} {q : Prefix} {pattern : Text} {p : Pattern}
    (compiled : forUrl o (q.apply pattern) = .ok p) (inert : Lexeme.Inert q.text)
    (kept : ∀ c ∈ q.text.getLast?, c ∉ o.prefixes) {data : Params} {path : Text}
    (built : p.build data = .ok path) : q.text <+: path := by
  by_cases filled : q.text = []
  · rw [filled]
    exact List.nil_prefix
  · obtain ⟨rest, same, -⟩ := q.exists_apply_eq pattern
    rw [same] at compiled
    obtain ⟨ts, read, compiled⟩ := bind_eq_ok_iff.1 compiled
    obtain ⟨more, ts', rfl⟩ := Token.exists_ofPattern?_append inert filled kept read
    exact (List.prefix_append _ _).trans ((ofTokens_of compiled).builder.prefix_build built)

namespace Router

/-- Building goes by the first entry of the pattern. -/
theorem build?_eq {r : Router M} {p : Prefix} {pattern : Text} {earlier later : List (Entry M)}
    {e : Entry M} (split : r.entries = earlier ++ e :: later) (text : e.pattern.text = p.apply pattern)
    (first : ∀ e' ∈ earlier, e'.pattern.text ≠ e.pattern.text) (data : Params) :
    r.build? p pattern data = some (e.pattern.build data) := by
  have absent : earlier.find? (·.pattern.text == p.apply pattern) = none := by
    rw [List.find?_eq_none, ← text]
    exact fun e' member => by simpa using first e' member
  rw [build?, split, List.find?_append, absent, Option.none_or, List.find?_cons_of_pos (by simp [text]),
    Option.map_some]

/-- Where some entry matches, the first one that does answers. -/
theorem exists_resolve?_eq {r : Router M} {p : Prefix} {path : Text} {earlier later : List (Entry M)}
    {e : Entry M} (split : r.entries = earlier ++ e :: later)
    (matched : (e.pattern.match? (p.apply path)).isSome = true) :
    ∃ before here after found, earlier ++ [e] = before ++ here :: after ∧
      (∀ e' ∈ before, e'.pattern.match? (p.apply path) = none) ∧
      here.pattern.match? (p.apply path) = some found ∧
      r.resolve? p path = some ⟨here.pattern.text, p.apply path, here.info, found.params⟩ := by
  have present : ((earlier ++ [e]).find? fun e' => (e'.pattern.match? (p.apply path)).isSome).isSome :=
    List.find?_isSome.2 ⟨e, by simp, matched⟩
  obtain ⟨here, first⟩ := Option.isSome_iff_exists.1 present
  obtain ⟨matches_, before, after, upTo, misses⟩ := List.find?_eq_some_iff_append.1 first
  obtain ⟨found, match_⟩ := Option.isSome_iff_exists.1 matches_
  have misses : ∀ e' ∈ before, e'.pattern.match? (p.apply path) = none := by simpa using misses
  refine ⟨before, here, after, found, upTo, misses, match_, ?_⟩
  have whole : r.entries = before ++ here :: (after ++ later) := by
    rw [split, ← List.singleton_append, ← List.append_assoc, upTo, List.append_assoc,
      List.cons_append]
  refine List.findSome?_eq_some_iff.2 ⟨before, here, after ++ later, whole, ?_, fun e' member => ?_⟩
  · rw [Entry.resolve?, match_, Option.map_some]
  · rw [Entry.resolve?, misses e' member, Option.map_none]

end Router

namespace Site

theorem step_build {s : Site M} {n : Nat} {m : Mounted M} {q : Prefix}
    (mounted : s.mounted? n = some (m, q)) (pattern : Text) (data : Params) :
    s.step (.build n pattern data) = (s, .built (m.router.build? q pattern data)) := by
  simp [step, step?, mounted]

/-- A path that was built for an entry starts with the prefix, is left alone by it and resolves to the
first entry that matches it, which is the entry it was built for or one before that. The prefix is still
the one that the entry was registered with, stands for itself in patterns, and no parameter takes its
last character; the search for the path must not be given up where something may follow a match. -/
theorem resolves_built {s : Site M} {n : Nat} {m : Mounted M} {q : Prefix}
    (mounted : s.mounted? n = some (m, q)) {o : Options} (inert : Lexeme.Inert q.text)
    (kept : ∀ c ∈ q.text.getLast?, c ∉ o.prefixes) (validate : o.validate = true)
    {pattern : Text} (plain : Lexeme.withoutFragments pattern = true) {info : M} {e : Entry M}
    (registered : Registration.Yields ⟨q.apply pattern, o, info⟩ e) {earlier later : List (Entry M)}
    (split : m.router.entries = earlier ++ e :: later)
    (first : ∀ e' ∈ earlier, e'.pattern.text ≠ e.pattern.text) {data : Params} {path : Text}
    (built : (s.step (.build n e.pattern.text data)).2 = .built (some (.ok path)))
    (finished : o.anchoredEnd = false ∨ o.endsWith ≠ [] →
      e.pattern.matcher.program.search path ≠ .gaveUp) :
    q.text <+: path ∧ q.apply path = path ∧
    ∃ before r after found, earlier ++ [e] = before ++ r :: after ∧
      (∀ e' ∈ before, e'.pattern.match? path = none) ∧ r.pattern.match? path = some found ∧
      s.step (.resolve n path) =
        (s, .resolved (some ⟨r.pattern.text, path, r.info, found.params⟩)) ∧
      ((∀ e' ∈ earlier, e'.pattern.match? path = none) → r = e) := by
  have text : e.pattern.text = q.apply e.pattern.text := by
    rw [registered.text, Prefix.apply_apply]
  have written : e.pattern.build data = .ok path := by
    simpa [step_build mounted, Router.build?_eq split text first] using built
  have starts := Pattern.prefix_build registered.compiled inert kept written
  have unchanged := Prefix.apply_of_prefix starts
  have matched := Pattern.isSome_match?_of_build (q.withoutFragments_apply inert plain)
    registered.compiled validate written finished
  obtain ⟨before, r, after, found, upTo, misses, here, resolved⟩ :=
    Router.exists_resolve?_eq split (unchanged.symm ▸ matched)
  rw [unchanged] at misses here resolved
  refine ⟨starts, unchanged, before, r, after, found, upTo, misses, here, ?_, fun others => ?_⟩
  · simp [step, step?, mounted, resolved]
  · -- An entry that matches is not among the earlier ones.
    rcases List.eq_nil_or_concat after with rfl | ⟨inner, last, rfl⟩
    · exact (List.singleton_inj.1 (List.append_inj' upTo rfl).2).symm
    · rw [List.concat_eq_append, ← List.cons_append, ← List.append_assoc] at upTo
      obtain rfl := (List.append_inj' upTo rfl).1
      rw [others r (by simp)] at here
      cases here

/-- A router with a prefix and one pattern, whose last parameter may be left out. -/
def oneRouter : List (Step Nat) :=
  [.fresh "/app".toList, .mount (.handle 0) {}, .register 0 "/:id/:page?".toList 7]

theorem resolves_built_page : ∃ s text data params, (empty.run oneRouter).1 = s ∧
    (s.step (.build 0 text data)).2 = .built (some (.ok "/app/a%20b".toList)) ∧
    s.step (.resolve 0 "/app/a%20b".toList) =
      (s, .resolved (some ⟨text, "/app/a%20b".toList, 7, params⟩)) := by
  let data : Params := ⟨[(.named "id".toList, .single "a b".toList)]⟩
  have evaluated : (Pattern.forUrl {} "/app/:id/:page?".toList).toOption.map
      (fun p => (p.text, p.plain, (p.build data).toOption)) =
      some ("/app/:id/:page?".toList, false, some "/app/a%20b".toList) := by decide +kernel
  obtain ⟨p, found, same⟩ := Option.map_eq_some_iff.1 evaluated
  simp only [Prod.mk.injEq] at same
  obtain ⟨text, dynamic, written⟩ := same
  have compiled := eq_ok_of_toOption found
  have written := eq_ok_of_toOption written
  let e : Entry Nat := ⟨p, 7⟩
  let m : Mounted Nat := ⟨0, (Router.empty {}).add e⟩
  let s : Site Nat := ⟨[⟨"/app".toList⟩], [0], [m]⟩
  have ran : (empty.run oneRouter).1 = s := by
    have last : (empty.run oneRouter).1 = (Site.step (M := Nat)
        ⟨[⟨"/app".toList⟩], [0], [⟨0, Router.empty {}⟩]⟩
        (.register 0 "/:id/:page?".toList 7)).1 := rfl
    have compiled' : Pattern.forUrl (Router.empty (M := Nat) {}).options
        ((⟨"/app".toList⟩ : Prefix).apply "/:id/:page?".toList) = .ok p := compiled
    rw [last, step_register (m := ⟨0, Router.empty {}⟩) (p := ⟨"/app".toList⟩) rfl, compiled']
    rfl
  have mounted : s.mounted? 0 = some (m, ⟨"/app".toList⟩) := rfl
  have entries : m.router.entries = [] ++ e :: [] := Router.entries_add_dynamic dynamic _
  have kept : ∀ c ∈ "/app".toList.getLast?, c ∉ Options.prefixes {} := by
    have last : "/app".toList.getLast? = some 'p' := by decide
    rw [last]
    rintro _ ⟨⟩
    decide
  have registered : Registration.Yields ⟨(⟨"/app".toList⟩ : Prefix).apply "/:id/:page?".toList, {}, 7⟩
      e := ⟨compiled, text, rfl⟩
  have first : ∀ e' ∈ ([] : List (Entry Nat)), e'.pattern.text ≠ e.pattern.text := by simp
  have stays : e.pattern.text = (⟨"/app".toList⟩ : Prefix).apply e.pattern.text := by
    rw [registered.text, Prefix.apply_apply]
  have built : (s.step (.build 0 e.pattern.text data)).2 =
      .built (some (.ok "/app/a%20b".toList)) := by
    have answer : e.pattern.build data = .ok "/app/a%20b".toList := written
    rw [step_build mounted, Router.build?_eq entries stays first, answer]
  obtain ⟨-, -, -, r, -, found, -, -, -, resolved, alone⟩ := resolves_built mounted
    (by decide) kept rfl (by decide +kernel) registered entries first built (by simp)
  obtain rfl := alone (by simp)
  exact ⟨s, _, data, _, ran, built, resolved⟩

end Site

end RoutePattern
