import RoutePattern.Proofs.Value

/-! # Building undoes matching

Where nothing is changed between a path and its parameters, a pattern builds each path that it matches
from the parameters that the match gives (`build_match?`). The pattern may be ambiguous: what the
captures of any way through it hold makes up the path.
-/

namespace RoutePattern

open RoutePattern.Expr (waysThrough)

/-- Paths are matched whole and as written, and built from values that pass their checks. -/
structure Options.Exact (o : Options) : Prop where
  sensitive : o.sensitive = true
  strict : o.strict = true
  anchoredStart : o.anchoredStart = true
  anchoredEnd : o.anchoredEnd = true
  validate : o.validate = true
  endsWith : o.endsWith = []
  encode : o.encode = .identity
  decode : o.decode = .identity

/-! ## Ways through a whole path -/

section Ways

variable {o : Options} {ts : List Token} {path : Text} {u : Thread}

theorem Options.Exact.endingExprs (exact : o.Exact) (ts : List Token) :
    o.endingExprs ts = [.anchor .textEnd] := by
  simp [Options.endingExprs, Options.wholeEndingExprs, exact.anchoredEnd, exact.strict,
    exact.endsWith]

/-- A way through a whole path lays the path out. -/
theorem Token.layout_eq_of_way (exact : o.Exact) (capturing : Capturing ts)
    (way : u ∈ waysThrough (exprs o 0 ts ++ o.endingExprs ts) (.ofPlace (.start path))) :
    List.Forall₂ (Key.Holds o) (keys ts) (u.raws 0 (keys ts).length) ∧
      path = layout ts (u.raws 0 (keys ts).length) := by
  rw [Expr.waysThrough_append, List.mem_flatMap, exact.endingExprs ts] at way
  obtain ⟨v, inside, last⟩ := way
  rw [Expr.waysThrough_single, Options.mem_ways_textEnd] at last
  obtain ⟨rfl, finished⟩ := last
  obtain ⟨holds, passed, -⟩ :=
    layout_of_way exact.sensitive exact.encode capturing (fun _ _ => rfl) inside
  refine ⟨holds, (passed.ahead.eq_of_length_le ?_).symm⟩
  simpa [passed.place, Thread.ofPlace, Place.start] using finished

end Ways

/-! ## Values of a whole path -/

section Values

variable {o : Options} {ks : List Key} {raws : List (Option Text)}

/-- What the keys hold gives values that they take and that pass their checks. -/
theorem Key.valuesOf_admitted (exact : o.Exact) (oneSided : ∀ k ∈ ks, k.OneSided)
    (divided : ∀ k ∈ ks, k.Divided o) (holds : List.Forall₂ (Key.Holds o) ks raws) :
    List.Forall₂ (fun k value => k.Admits o value ∧ ∀ v ∈ value, k.Takes v) ks
      (valuesOf .identity ks raws) := by
  induction holds with
  | nil => exact .nil
  | @cons k raw ks raws held _ ih =>
    rw [List.forall_mem_cons] at oneSided divided
    refine .cons ?_ (ih oneSided.2 divided.2)
    cases raw with
    | none => exact ⟨held, by simp⟩
    | some raw =>
      have passed := Key.parts_value exact.sensitive oneSided.1 divided.1 held
      refine ⟨fun _ => ?_, fun v found => ?_⟩
      · rw [exact.encode]
        exact passed
      · obtain rfl := Option.some.inj found
        exact Key.takes_value _ (Key.ne_nil_of_mem_runs held)

/-- The values make up what the keys hold again. -/
theorem Key.runs_valuesOf (ks : List Key) (same : raws.length = ks.length) :
    ks.zipWith (fun k value => value.map (k.run .identity)) (valuesOf .identity ks raws) = raws := by
  induction ks generalizing raws with
  | nil => exact (List.length_eq_zero_iff.1 same).symm
  | cons k ks ih =>
    obtain ⟨raw, raws, rfl⟩ := List.exists_cons_of_length_eq_add_one same
    simp only [valuesOf, List.zipWith_cons_cons] at ih ⊢
    rw [ih (by simpa using same)]
    cases raw with
    | none => rfl
    | some raw => rw [Option.map_some, Option.map_some, Key.run_value]

end Values

namespace Pattern

/-- The path of a match is built from the parameters of the match. -/
theorem build_match? {o : Options} (exact : o.Exact) {text : Text} {p : Pattern}
    (plain : Lexeme.withoutFragments text = true) (compiled : ofText o text = .ok p)
    (capturing : Token.Capturing p.tokens) (distinct : (p.keys.map (·.name)).Nodup)
    (oneSided : ∀ k ∈ p.keys, k.OneSided) (divided : ∀ k ∈ p.keys, k.Divided o) {path : Text}
    {found : Match} (matched : p.match? path = some found) : p.build found.params = .ok path := by
  obtain ⟨ts, of, simple, named⟩ := ofText_of plain compiled
  rw [of.tokens] at capturing
  rw [of.keys] at distinct oneSided divided
  -- The match is the first way through the whole path.
  have finished : p.matcher.program.search path ≠ .gaveUp :=
    Token.search_ne_gaveUp simple of.matcher.program exact.anchoredEnd exact.endsWith path
  rw [Pattern.match?, of.matcher.match?_eq distinct,
    Token.find?_eq simple exact.anchoredStart of.matcher.program finished, Option.map_map,
    Option.map_eq_some_iff] at matched
  obtain ⟨u, first, rfl⟩ := matched
  obtain ⟨holds, laid⟩ := Token.layout_eq_of_way exact capturing (List.mem_of_head? first)
  -- Its keys find the values of what they hold.
  rw [Function.comp_apply, exact.decode]
  generalize u.raws 0 (Token.keys ts).length = raws at holds laid ⊢
  have values := Params.get?_ofValues named distinct
    (Key.length_valuesOf .identity holds.length_eq.symm)
  have admitted := Key.valuesOf_admitted exact oneSided divided holds
  have runs := Key.runs_valuesOf (Token.keys ts) holds.length_eq.symm
  generalize Params.ofValues (Token.keys ts)
    (Key.valuesOf .identity (Token.keys ts) raws) = data at values ⊢
  rw [← values, List.forall₂_map_right_iff, List.forall₂_same] at admitted
  rw [← values, List.zipWith_map_right, List.zipWith_self] at runs
  refine (of.builder.build_eq_ok_iff simple capturing oneSided fun k member =>
    (admitted k member).2).2 ⟨fun k member => (admitted k member).1, ?_⟩
  rw [exact.encode, runs]
  exact laid

/-- Two parameters without a text between them, and a repeated one. -/
theorem build_match?_adjacent : ∃ p found,
    ofText { sensitive := true, strict := true } "/:a:b?/:rest*".toList = .ok p ∧
      p.match? "/xyz/u/v".toList = some found ∧ p.build found.params = .ok "/xyz/u/v".toList := by
  let o : Options := { sensitive := true, strict := true }
  let segment := "[^/#?]+?".toList
  let a : Key := ⟨.named ['a'], ['/'], [], segment, none⟩
  let b : Key := ⟨.named ['b'], [], [], segment, some .optional⟩
  let rest : Key := ⟨.named "rest".toList, ['/'], [], segment, some .zeroOrMore⟩
  have evaluated : (ofText o "/:a:b?/:rest*".toList).toOption.map
      (fun p => (p.tokens, p.keys, (p.match? "/xyz/u/v".toList).isSome)) =
      some ([.param a, .param b, .param rest], [a, b, rest], true) := by decide +kernel
  obtain ⟨p, some, same⟩ := Option.map_eq_some_iff.1 evaluated
  simp only [Prod.mk.injEq] at same
  obtain ⟨tokens, keys, matched⟩ := same
  obtain ⟨found, matched⟩ := Option.isSome_iff_exists.1 matched
  have compiled := eq_ok_of_toOption some
  have exact : o.Exact := by constructor <;> rfl
  exact ⟨p, found, compiled, matched, build_match? exact (by decide +kernel) compiled
    (by rw [tokens]; decide) (by rw [keys]; decide) (by rw [keys]; decide) (by rw [keys]; decide)
    matched⟩

end Pattern

end RoutePattern
