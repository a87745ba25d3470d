import RoutePattern.Proofs.Token.FirstWay
import RoutePattern.Proofs.Value

/-! # Matching undoes building

A pattern whose tokens keep its parameters apart matches the paths that it builds, and the match gives
the parameters that the path was built from (`match?_build`).
-/

namespace RoutePattern

/-! ## Parameters for the first keys -/

namespace Key

variable {o : Options} {ks : List Key} {given : List Value} {encode decode : Codec}

/-- The parameter takes the value, and its parts pass the check. -/
def Suits (o : Options) (encode : Codec) (k : Key) (v : Value) : Prop :=
  k.Takes v ∧ ∀ t ∈ v.parts, encode.encode t ∈ o.values

/-- The runs of values. -/
def runsOf (encode : Codec) (ks : List Key) (given : List Value) : List Text :=
  ks.zipWith (fun k v => k.run encode v) given

theorem Supplies.imp {α : Type} {suits suits' : Key → α → Prop} {vs : List α}
    (weaker : ∀ k ∈ ks, ∀ v ∈ vs, suits k v → suits' k v) (supplies : Supplies suits ks vs) :
    Supplies suits' ks vs := by
  induction supplies with
  | nil => exact .nil
  | omitted optional _ ih => exact .omitted optional (ih (by simp))
  | given suits _ ih =>
    refine .given (weaker _ List.mem_cons_self _ List.mem_cons_self suits) (ih ?_)
    exact fun k member v listed =>
      weaker k (List.mem_cons_of_mem _ member) v (List.mem_cons_of_mem _ listed)

theorem length_aligned {α : Type} (ks : List Key) (vs : List α) :
    (aligned ks vs).length = ks.length := by
  fun_induction aligned ks vs <;> simp_all

theorem aligned_runsOf (encode : Codec) (ks : List Key) (given : List Value) :
    aligned ks (runsOf encode ks given) =
      ks.zipWith (fun k v => v.map (k.run encode)) (aligned ks given) := by
  fun_induction aligned ks given with
  | case1 => rfl
  | case2 k ks ih => simpa [aligned, runsOf] using ih
  | case3 k ks v vs ih => simpa [aligned, runsOf] using ih

/-- Values that suit the keys are given as runs that the keys may hold. -/
theorem Supplies.runs (oneSided : ∀ k ∈ ks, k.OneSided)
    (supplies : Supplies (Suits o encode) ks given) :
    Supplies (fun k raw => raw ∈ k.runs o) ks (runsOf encode ks given) := by
  induction supplies with
  | nil => exact .nil
  | omitted optional _ ih =>
    rw [List.forall_mem_cons] at oneSided
    rw [runsOf, List.zipWith_nil_right] at ih ⊢
    exact .omitted optional (ih oneSided.2)
  | given suits _ ih =>
    rw [List.forall_mem_cons] at oneSided
    exact .given (run_mem_runs oneSided.1 suits.1 suits.2) (ih oneSided.2)

/-- The values of runs are those that the runs were made from. -/
theorem Supplies.valuesOf (marked : ∀ k ∈ ks, k.repeats = true → ∃ c ∈ k.separator, c ∈ o.delimiter)
    (inverse : ∀ v ∈ given, ∀ t ∈ v.parts, decode.decode (encode.encode t) = t)
    (supplies : Supplies (Suits o encode) ks given) :
    valuesOf decode ks (aligned ks (runsOf encode ks given)) = aligned ks given := by
  rw [aligned_runsOf, Key.valuesOf]
  induction supplies with
  | nil => rfl
  | omitted _ _ ih =>
    rw [List.forall_mem_cons] at marked
    rw [aligned, List.zipWith_cons_cons, List.zipWith_cons_cons, ih marked.2 inverse,
      Option.map_none, Option.map_none]
  | given suits _ ih =>
    rw [List.forall_mem_cons] at marked inverse
    rw [aligned, List.zipWith_cons_cons, List.zipWith_cons_cons, ih marked.2 inverse.2,
      Option.map_some, Option.map_some, value_run suits.1 suits.2 marked.1 inverse.1]

theorem Supplies.takes (supplies : Supplies Takes ks given) :
    List.Forall₂ (fun k value => ∀ v ∈ value, k.Takes v) ks (aligned ks given) := by
  induction supplies with
  | nil => exact .nil
  | omitted _ _ ih => exact .cons (by simp) ih
  | given takes _ ih =>
    refine .cons (fun v found => ?_) ih
    obtain rfl := Option.some.inj found
    exact takes

/-- Values that suit the keys pass their checks. -/
theorem Supplies.admitted (supplies : Supplies (Suits o o.encode) ks given) :
    List.Forall₂ (Key.Admits o) ks (aligned ks given) := by
  induction supplies with
  | nil => exact .nil
  | omitted optional _ ih => exact .cons optional ih
  | given suits _ ih => exact .cons (fun _ => suits.2) ih

/-- Values that pass their checks suit the keys. -/
theorem Supplies.suits (validate : o.validate = true) (supplies : Supplies Takes ks given)
    (admitted : List.Forall₂ (Key.Admits o) ks (aligned ks given)) :
    Supplies (Suits o o.encode) ks given := by
  induction supplies with
  | nil => exact .nil
  | omitted optional _ ih =>
    obtain ⟨-, later⟩ := List.forall₂_cons.1 admitted
    exact .omitted optional (ih later)
  | given takes _ ih =>
    obtain ⟨here, later⟩ := List.forall₂_cons.1 admitted
    exact .given ⟨takes, here validate⟩ (ih later)

end Key

/-- The parameters of the first keys, one for each value. -/
def Params.given (ks : List Key) (given : List Value) : Params := ⟨(ks.map (·.name)).zip given⟩

theorem Params.given_eq_ofValues {suits : Key → Value → Prop} {ks : List Key} {given : List Value}
    (supplies : Key.Supplies suits ks given) :
    Params.given ks given = .ofValues ks (Key.aligned ks given) := by
  simp only [Params.given, Params.ofValues, Params.mk.injEq]
  induction supplies with
  | nil => rfl
  | omitted _ _ ih => rw [Key.aligned, Key.entries, ← ih, List.zip_nil_right, List.zip_nil_right]
  | given _ _ ih => rw [List.map_cons, List.zip_cons_cons, ih, Key.aligned, Key.entries]

/-! ## Paths of given values -/

/-- A match is a whole path, and nothing may follow it. -/
structure Options.Whole (o : Options) : Prop where
  anchoredStart : o.anchoredStart = true
  anchoredEnd : o.anchoredEnd = true
  endsWith : o.endsWith = []

namespace Token.Apart

variable {o : Options} {ts : List Token}

theorem oneSided (apart : Apart o ts) : ∀ k ∈ keys ts, k.OneSided :=
  fun k member _ => .inr (apart.trail k member)

theorem marked (apart : Apart o ts) :
    ∀ k ∈ keys ts, k.repeats = true → ∃ c ∈ k.separator, c ∈ o.delimiter := by
  intro k member repeats
  obtain ⟨c, first, delimiter⟩ := apart.run k member repeats
  exact ⟨c, List.mem_append_left _ (List.mem_of_head? first), delimiter⟩

end Token.Apart

namespace Pattern

variable {o matching building : Options} {ts : List Token} {p : Pattern} {given : List Value}

/-- What is laid out for the first parameters is matched with what it was laid out from. -/
theorem Of.match?_layout (of : p.Of matching building ts) (whole : matching.Whole)
    (asWritten : matching.encode = .identity) (simple : Token.simple matching ts = true)
    (capturing : Token.Capturing ts) (distinct : ((Token.keys ts).map (·.name)).Nodup)
    (apart : Token.Apart matching ts) {raws : List Text}
    (supplies : Key.Supplies (fun k raw => raw ∈ k.runs matching) (Token.keys ts) raws) {path : Text}
    (laid : path = Token.layout ts (Key.aligned (Token.keys ts) raws)) :
    p.match? path = some ⟨path, 0, .ofValues (Token.keys ts)
      (Key.valuesOf matching.decode (Token.keys ts) (Key.aligned (Token.keys ts) raws))⟩ := by
  have finished : p.matcher.program.search path ≠ .gaveUp :=
    Token.search_ne_gaveUp simple of.matcher.program whole.anchoredEnd whole.endsWith path
  obtain ⟨u, leads⟩ : ∃ u, Token.Leads matching 0 ts (.ofPlace (.start path)) u
      (Key.aligned (Token.keys ts) raws) :=
    Token.first_way asWritten whole.endsWith capturing apart supplies (Place.start_on path) laid
      fun _ _ => rfl
  have ending : matching.endingExprs ts = matching.wholeEndingExprs := by
    rw [Options.endingExprs, if_pos whole.anchoredEnd]
  -- The match starts at the start of the path and ends at its end.
  have on := Expr.waysThrough_on (Place.start_on path) (List.mem_of_head? leads.first)
  have length := on.length
  rw [leads.finished, List.length_nil, Nat.add_zero] at length
  have text : (Place.start path).textUpTo u.index = path := by
    rw [Thread.index, length, Place.textUpTo]
    exact List.take_length
  rw [Pattern.match?, of.matcher.match?_eq distinct,
    Token.find?_eq simple whole.anchoredStart of.matcher.program finished, ending,
    leads.first, Option.map_some, Option.map_some, leads.held, Found.text, text]
  rfl

/-- What a builder writes for values that the first keys take. -/
theorem Of.build_given_iff (of : p.Of matching building ts)
    (simple : Token.simple building ts = true) (capturing : Token.Capturing ts)
    (named : ∀ k ∈ Token.keys ts, ∃ n, k.name = .named n)
    (distinct : ((Token.keys ts).map (·.name)).Nodup)
    (oneSided : ∀ k ∈ Token.keys ts, k.OneSided)
    (supplies : Key.Supplies Key.Takes (Token.keys ts) given) {path : Text} :
    p.build (.given (Token.keys ts) given) = .ok path ↔
      List.Forall₂ (Key.Admits building) (Token.keys ts) (Key.aligned (Token.keys ts) given) ∧
        path = Token.layout ts
          (Key.aligned (Token.keys ts) (Key.runsOf building.encode (Token.keys ts) given)) := by
  have values := Params.get?_ofValues named distinct (Key.length_aligned (Token.keys ts) given)
  have takes := supplies.takes
  rw [Params.given_eq_ofValues supplies, Key.aligned_runsOf]
  generalize Params.ofValues (Token.keys ts) (Key.aligned (Token.keys ts) given) = data at values ⊢
  rw [← values, List.forall₂_map_right_iff, List.forall₂_same] at takes
  rw [← values, List.forall₂_map_right_iff, List.forall₂_same, List.zipWith_map_right,
    List.zipWith_self]
  exact of.builder.build_eq_ok_iff simple capturing oneSided takes

/-- The path that was built from parameters is matched with these parameters. -/
theorem match?_build (whole : o.Whole) (validate : o.validate = true) (encode : o.encode = .identity)
    (decode : o.decode = .identity) {text : Text} (plain : Lexeme.withoutFragments text = true)
    (compiled : ofText o text = .ok p) (capturing : Token.Capturing p.tokens)
    (distinct : (p.keys.map (·.name)).Nodup) (apart : Token.Apart o p.tokens)
    (supplies : Key.Supplies Key.Takes p.keys given) {path : Text}
    (built : p.build (.given p.keys given) = .ok path) :
    p.match? path = some ⟨path, 0, .given p.keys given⟩ := by
  obtain ⟨ts, of, simple, named⟩ := ofText_of plain compiled
  rw [of.tokens] at capturing apart
  rw [of.keys] at distinct supplies built ⊢
  obtain ⟨admitted, laid⟩ :=
    (of.build_given_iff simple capturing named distinct apart.oneSided supplies).1 built
  have suits := supplies.suits validate admitted
  have matched := of.match?_layout whole encode simple capturing distinct apart
    (suits.runs apart.oneSided) laid
  have inverse : ∀ v ∈ given, ∀ t ∈ v.parts, o.decode.decode (o.encode.encode t) = t := by
    intro v _ t _
    rw [encode, decode]
    rfl
  rwa [suits.valuesOf apart.marked inverse, ← Params.given_eq_ofValues supplies] at matched

theorem match?_build_rest : ∃ p data, ofText {} "/:a/:b?/:rest*".toList = .ok p ∧
    p.build data = .ok "/x/Yz/u/v".toList ∧
      p.match? "/x/Yz/u/v".toList = some ⟨"/x/Yz/u/v".toList, 0, data⟩ := by
  let segment := "[^/#?]+?".toList
  let a : Key := ⟨.named ['a'], ['/'], [], segment, none⟩
  let b : Key := ⟨.named ['b'], ['/'], [], segment, some .optional⟩
  let rest : Key := ⟨.named "rest".toList, ['/'], [], segment, some .zeroOrMore⟩
  let given : List Value := [.single ['x'], .single ['Y', 'z'], .repeated [['u'], ['v']]]
  have evaluated : (ofText {} "/:a/:b?/:rest*".toList).toOption.map
      (fun p => (p.tokens, p.keys, (p.build (.given p.keys given)).toOption)) =
      some ([.param a, .param b, .param rest], [a, b, rest], some "/x/Yz/u/v".toList) := by
    decide +kernel
  obtain ⟨p, some, same⟩ := Option.map_eq_some_iff.1 evaluated
  simp only [Prod.mk.injEq] at same
  obtain ⟨tokens, keys, built⟩ := same
  have compiled := eq_ok_of_toOption some
  have built := eq_ok_of_toOption built
  have apart : Token.Apart {} [.param a, .param b, .param rest] := by constructor <;> decide
  have supplies : Key.Supplies Key.Takes [a, b, rest] given :=
    .given rfl (.given rfl (.given ⟨rfl, by decide⟩ .nil))
  exact ⟨p, .given p.keys given, compiled, built, match?_build (by constructor <;> rfl) rfl rfl rfl
    (by decide +kernel) compiled (by rw [tokens]; decide) (by rw [keys]; decide) (tokens ▸ apart)
    (keys ▸ supplies) built⟩

end Pattern

end RoutePattern
