import RoutePattern.Proofs.Pattern.Compiled
import RoutePattern.Proofs.Token.Fragments

/-! # The groups of a matcher

A matcher finds the value of its `i`-th key in the group number `i`. Where the fragments of a pattern keep
within their brackets, its expression has one group for each key, and the group number `i` holds the
fragment of the `i`-th key (`Matcher.captures_ofPattern`).
-/

namespace RoutePattern

namespace Params

theorem mem_put {name name' : Name} {value value' : Value} {entries : List (Name × Value)}
    (member : (name, value) ∈ put name' value' entries) :
    name = name' ∧ value = value' ∨ (name, value) ∈ entries := by
  induction entries with
  | nil => simpa [put] using member
  | cons entry rest ih =>
    obtain ⟨n, v⟩ := entry
    rw [put] at member
    split at member
    · rename_i same
      subst same
      rcases List.mem_cons.1 member with here | later
      · exact .inl (Prod.mk.inj here)
      · exact .inr (List.mem_cons_of_mem _ later)
    · rcases List.mem_cons.1 member with here | later
      · exact .inr (here ▸ List.mem_cons_self)
      · exact (ih later).imp_right (List.mem_cons_of_mem _)

end Params

namespace Matcher

/-- The value of an entry is the text that the group of its key captured. -/
theorem mem_paramsFrom {decode : Codec} {found : Found} {group : Nat} {ks : List Key} {params : Params}
    {name : Name} {value : Value}
    (member : (name, value) ∈ (paramsFrom decode found group ks params).entries) :
    (name, value) ∈ params.entries ∨
      ∃ i k raw, ks[i]? = some k ∧ k.name = name ∧ found.group? (group + i) = some raw ∧
        value = k.value decode raw := by
  induction ks generalizing group params with
  | nil => exact .inl member
  | cons k ks ih =>
    rw [paramsFrom] at member
    rcases ih member with before | ⟨i, k', raw, listed, named, captured, same⟩
    · cases text : found.group? group with
      | none =>
        rw [text] at before
        exact .inl before
      | some raw =>
        rw [text] at before
        cases raw with
        | nil => exact .inl before
        | cons c raw =>
          rcases Params.mem_put before with ⟨rfl, rfl⟩ | earlier
          · exact .inr ⟨0, k, c :: raw, rfl, rfl, text, rfl⟩
          · exact .inl earlier
    · refine .inr ⟨i + 1, k', raw, listed, named, ?_, same⟩
      rwa [Nat.add_right_comm, Nat.add_assoc] at captured

/-- In the expression of a pattern whose fragments keep within their brackets the groups are those of the
keys, in their order, and a match takes each value from the group of its key. Fragments that refer back
to a group are left out (`Key.Confined`). -/
theorem captures_ofPattern {o : Options} {text : Text} {m : Matcher}
    (compiled : ofPattern o text = .ok m)
    (confined : ∀ k ∈ m.keys, k.fragment ≠ o.segment → k.Confined o) :
    (∃ n, Expr.read? m.source = some n ∧ Program.ofNotated? n = some m.program ∧
      n.groups = m.keys.length ∧
      n.expr.captures = (m.keys.zipIdx 1).map fun (k, i) => (i, k.heldExpr o)) ∧
    ∀ path found, m.program.find? path = some found →
      ∃ r, m.match? path = some r ∧
        ∀ name value, (name, value) ∈ r.params.entries →
          ∃ i k raw, m.keys[i]? = some k ∧ k.name = name ∧ found.group? (i + 1) = some raw ∧
            value = k.value m.decode raw := by
  obtain ⟨ts, tokens, made⟩ := bind_eq_ok_iff.1 compiled
  have of := ofTokens_of made
  constructor
  · obtain ⟨n, read, program⟩ := Program.exists_of_ofSource of.program
    have alone : ∀ k ∈ Token.keys ts, k.StandsAlone o :=
      Token.standsAlone_of_confined tokens (of.keys ▸ confined)
    have parts := Token.read?_parts alone read
    refine ⟨n, of.source ▸ read, program, ?_, ?_⟩
    · rw [parts, of.keys]
    · rw [parts, of.keys, Token.captures_wholeParts]
  · intro path found answer
    refine ⟨_, by rw [match?, answer, Option.map_some], fun name value member => ?_⟩
    rcases mem_paramsFrom member with empty | ⟨i, k, raw, listed, named, captured, same⟩
    · cases empty
    · exact ⟨i, k, raw, listed, named, Nat.add_comm 1 i ▸ captured, same⟩

/-- Two fragments, one of which has a group of its own that captures nothing. -/
theorem captures_ofPattern_dated : ∃ m n,
    ofPattern {} "/:year(\\d+)/:slug([a-z]+(?:-[a-z]+)*)".toList = .ok m ∧
      m.keys.map (·.name) = [.named "year".toList, .named "slug".toList] ∧
      Expr.read? m.source = some n ∧ n.groups = 2 ∧ n.expr.captures.map (·.1) = [1, 2] := by
  have evaluated : (ofPattern {} "/:year(\\d+)/:slug([a-z]+(?:-[a-z]+)*)".toList).toOption.map
      (fun m => (m.keys.map (·.name), m.keys.all fun k => decide (k.Confined {}))) =
      some ([.named "year".toList, .named "slug".toList], true) := by decide +kernel
  obtain ⟨m, found, same⟩ := Option.map_eq_some_iff.1 evaluated
  obtain ⟨names, confined⟩ := Prod.mk.inj same
  have compiled := eq_ok_of_toOption found
  obtain ⟨⟨n, read, -, groups, captures⟩, -⟩ := captures_ofPattern compiled
    fun k member _ => of_decide_eq_true (List.all_eq_true.1 confined k member)
  have length : m.keys.length = 2 := by simpa using congrArg List.length names
  refine ⟨m, n, compiled, names, read, groups.trans length, ?_⟩
  rw [captures, List.map_map]
  exact (List.zipIdx_map_snd 1 m.keys).trans (by rw [length]; rfl)

/-- Two fragments, neither of which keeps within its brackets, are read as one class. Then there are
fewer groups than keys, and what the group of the last key captured goes to the key before it. -/
theorem exists_match?_of_next_key : ∃ m n,
    ofPattern {} "([)x(])/:id".toList = .ok m ∧
      m.keys.map (·.name) = [.ordinal 0, .ordinal 1, .named "id".toList] ∧
      Expr.read? m.source = some n ∧ n.groups = 2 ∧
      m.match? "x/42".toList = some ⟨"x/42".toList, 0,
        ⟨[(.ordinal 0, .single "x".toList), (.ordinal 1, .single "42".toList)]⟩⟩ := by
  have evaluated : (ofPattern {} "([)x(])/:id".toList).toOption.map (fun m =>
      (m.keys.map (·.name), (Expr.read? m.source).map (·.groups), m.match? "x/42".toList)) =
      some ([.ordinal 0, .ordinal 1, .named "id".toList], some 2,
        some ⟨"x/42".toList, 0,
          ⟨[(.ordinal 0, .single "x".toList), (.ordinal 1, .single "42".toList)]⟩⟩) := by
    decide +kernel
  obtain ⟨m, found, same⟩ := Option.map_eq_some_iff.1 evaluated
  obtain ⟨names, groups, answer⟩ : _ ∧ _ ∧ _ := by simpa only [Prod.mk.injEq] using same
  obtain ⟨n, read, count⟩ := Option.map_eq_some_iff.1 groups
  exact ⟨m, n, eq_ok_of_toOption found, names, read, count, answer⟩

end Matcher

end RoutePattern
