import RoutePattern.Proofs.Token.Ending
import RoutePattern.Proofs.Token.Layout

/-! # Tokens that keep their parameters apart

Where every token behind a parameter starts with a delimiter, a value ends where the delimiter stands.
What is laid out for the first parameters is then matched with just these values (`first_way`): a
shorter value leaves something over that no later token can pass, and an optional parameter is left out
only if nothing is left for it.
-/

namespace RoutePattern

open RoutePattern.Expr (waysThrough)

/-! ## Parameters that are given values -/

namespace Key

variable {α : Type}

/-- Values for the first keys, one for each; the keys behind them have none. -/
def aligned : List Key → List α → List (Option α)
  | [], _ => []
  | _ :: ks, [] => none :: aligned ks []
  | _ :: ks, v :: vs => some v :: aligned ks vs

/-- The values suit the first keys, and the keys behind them are optional. -/
inductive Supplies (suits : Key → α → Prop) : List Key → List α → Prop
  | nil : Supplies suits [] []
  | omitted {k : Key} {ks : List Key} :
      k.isOptional = true → Supplies suits ks [] → Supplies suits (k :: ks) []
  | given {k : Key} {ks : List Key} {v : α} {vs : List α} :
      suits k v → Supplies suits ks vs → Supplies suits (k :: ks) (v :: vs)

end Key

namespace Token

/-- The text that a token starts with. -/
def opening : Token → Text
  | text t => t
  | param k => k.lead

/-- The token starts with a delimiter. -/
def OpensDelimited (o : Options) (t : Token) : Prop := ∃ c ∈ t.opening.head?, c ∈ o.delimiter

instance (o : Options) (t : Token) : Decidable (OpensDelimited o t) :=
  Option.decidableExistsMem t.opening.head?

/-- No parameter has a text behind it, a delimiter starts what follows a parameter, and only the last
parameter repeats, if it starts with a delimiter. -/
structure Apart (o : Options) (ts : List Token) : Prop where
  trail : ∀ k ∈ keys ts, k.trail = []
  follows : ts.IsChain fun t next => ∀ k ∈ t.key?, k.repeats = false ∧ next.OpensDelimited o
  run : ∀ k ∈ keys ts, k.repeats = true → OpensDelimited o (param k)

variable {o : Options} {t : Token} {ts : List Token} {k : Key}

theorem Apart.tail (apart : Apart o (t :: ts)) : Apart o ts := by
  have subset : ∀ k ∈ keys ts, k ∈ keys (t :: ts) := by
    intro k member
    rw [mem_keys] at member ⊢
    exact ⟨List.mem_cons_of_mem t member.1, member.2⟩
  exact ⟨fun k member => apart.trail k (subset k member), apart.follows.tail,
    fun k member => apart.run k (subset k member)⟩

/-- What follows a parameter starts with a delimiter. -/
theorem Apart.next (apart : Apart o (param k :: ts)) :
    ∀ next ∈ ts.head?, k.repeats = false ∧ next.OpensDelimited o := by
  intro next member
  cases ts with
  | nil => cases member
  | cons t ts =>
    obtain rfl := Option.some.inj member
    exact (List.isChain_cons_cons.1 apart.follows).1 k rfl

end Token

/-! ## The end of the path -/

namespace Options

variable {o : Options} {t : Thread} {d : Char} {rest : Text}

theorem exists_last_iff (last : o.endsWith = []) :
    (∃ u, u ∈ waysThrough o.wholeEndingExprs t) ↔
      t.place.after = [] ∨ o.strict = false ∧ ∃ c, t.place.after = [c] ∧ o.delimits c := by
  rw [exists_wholeEnding_iff, last]
  constructor
  · rintro ⟨d, r, after, delimiter, opened⟩
    obtain rfl : r = [] := by
      cases r with
      | nil => rfl
      | cons c r => simp [opens] at opened
    rw [after, List.append_nil]
    rcases delimiter with rfl | ⟨lenient, c, rfl, delimiter⟩
    · exact .inl rfl
    · exact .inr ⟨lenient, c, rfl, delimiter⟩
  · rintro (after | ⟨lenient, c, after, delimiter⟩)
    · exact ⟨[], [], after, .inl rfl, opens_nil⟩
    · exact ⟨[c], [], after, .inr ⟨lenient, c, rfl, delimiter⟩, opens_nil⟩

/-- At the end of the path nothing is left to do. -/
theorem ways_wholeEnding_at_end (last : o.endsWith = []) (after : t.place.after = []) :
    waysThrough o.wholeEndingExprs t = [t] := by
  have none : (o.classExpr o.delimiter).ways t = [] := by
    refine List.eq_nil_iff_forall_not_mem.2 fun u member => ?_
    obtain ⟨d, r, ahead, -, -⟩ := mem_ways_class.1 member
    rw [after] at ahead
    cases ahead
  have here : (Expr.anchor .textEnd).ways t = [t] := by
    simp [Expr.ways, Anchor.holds, after]
  unfold wholeEndingExprs
  rw [Expr.waysThrough_append, last, if_pos List.isEmpty_nil]
  split
  · simpa [waysThrough] using here
  · simpa [waysThrough, Expr.ways_optional, none] using here

/-- What may stand for a text that starts with a delimiter starts with one as well. -/
theorem delimits_of_mem_spelling {s m : Text} (starts : ∃ c ∈ s.head?, c ∈ o.delimiter)
    (spelled : m ∈ o.spelling s) : ∃ d, m.head? = some d ∧ o.delimits d := by
  obtain ⟨c, first, delimiter⟩ := starts
  cases spelled with
  | nil => cases first
  | @cons c' d s m same _ =>
    obtain rfl := Option.some.inj first
    exact ⟨d, rfl, c', delimiter, same⟩

end Options

/-! ## Ways through what follows -/

namespace Token

variable {o : Options} {groups : Nat} {k : Key} {t u : Thread} {ts : List Token} {es : List Expr}
  {d : Char} {rest : Text}

theorem waysThrough_text (s : Text) :
    waysThrough (exprs o groups (text s :: ts) ++ es) t =
      (waysThrough (o.textExprs s) t).flatMap (waysThrough (exprs o groups ts ++ es)) := by
  rw [exprs, List.append_assoc, Expr.waysThrough_append]

theorem waysThrough_param (asWritten : o.encode = .identity) (captures : k.captures = true)
    (divided : k.isBareRun = false) :
    waysThrough (exprs o groups (param k :: ts) ++ es) t =
      (waysThrough (k.holdExprs o groups) t).flatMap
          (waysThrough (exprs o (groups + 1) ts ++ es)) ++
        if k.isOptional then waysThrough (exprs o (groups + 1) ts ++ es) t else [] := by
  rw [exprs, List.append_assoc, Expr.waysThrough_append, Key.ways_exprs asWritten captures divided,
    List.flatMap_append, Key.groupsBehind, if_pos captures]
  split <;> simp

theorem OpensDelimited.isBareRun (opens : OpensDelimited o (param k)) : k.isBareRun = false := by
  obtain ⟨c, first, -⟩ := opens
  cases lead : k.lead with
  | nil => simp [opening, lead] at first
  | cons => simp [Key.isBareRun, lead]

theorem Apart.isBareRun (apart : Apart o (param k :: ts)) (captures : k.captures = true) :
    k.isBareRun = false := by
  cases repeats : k.repeats with
  | false => simp [Key.isBareRun, repeats]
  | true => exact (apart.run k (by simp [keys_param captures]) repeats).isBareRun

/-- Nothing that starts with a delimiter is passed where another character is next. -/
theorem holds_blocked (asWritten : o.encode = .identity) (opens : OpensDelimited o (param k))
    (after : t.place.after = d :: rest) (inside : ¬o.delimits d) :
    waysThrough (k.holdExprs o groups) t = [] := by
  refine List.eq_nil_iff_forall_not_mem.2 fun u way => ?_
  obtain ⟨l, spelled, v, -, r, -, ahead, -⟩ := (Key.mem_ways_holdExprs asWritten).1 way
  obtain ⟨d', first, delimiter⟩ := Options.delimits_of_mem_spelling opens spelled
  obtain ⟨l, rfl⟩ := List.head?_eq_some_iff.1 first
  rw [after, List.append_assoc, List.cons_append, List.cons_prefix_cons] at ahead
  exact inside (ahead.1 ▸ delimiter)

theorem text_blocked (asWritten : o.encode = .identity) {s : Text}
    (opens : OpensDelimited o (text s)) (after : t.place.after = d :: rest)
    (inside : ¬o.delimits d) : waysThrough (o.textExprs s) t = [] := by
  refine List.eq_nil_iff_forall_not_mem.2 fun u way => ?_
  obtain ⟨m, spelled, ahead, -⟩ := (mem_ways_textExprs asWritten).1 way
  obtain ⟨d', first, delimiter⟩ := Options.delimits_of_mem_spelling opens spelled
  obtain ⟨m, rfl⟩ := List.head?_eq_some_iff.1 first
  rw [after, List.cons_prefix_cons] at ahead
  exact inside (ahead.1 ▸ delimiter)

/-- Tokens behind a parameter have no way on within its value. -/
theorem blocked (asWritten : o.encode = .identity) (last : o.endsWith = [])
    (capturing : Capturing ts) (apart : Apart o ts) (opens : ∀ next ∈ ts.head?, OpensDelimited o next)
    (after : t.place.after = d :: rest) (inside : ¬o.delimits d) :
    waysThrough (exprs o groups ts ++ o.wholeEndingExprs) t = [] := by
  induction ts generalizing groups with
  | nil =>
    refine List.eq_nil_iff_forall_not_mem.2 fun u way => ?_
    rcases (Options.exists_last_iff last).1 ⟨u, way⟩ with finished | ⟨-, c, single, delimiter⟩
    · rw [after] at finished
      cases finished
    · rw [after] at single
      obtain ⟨rfl, -⟩ := List.cons.inj single
      exact inside delimiter
  | cons token ts ih =>
    have here := opens token rfl
    cases token with
    | text s => rw [waysThrough_text, text_blocked asWritten here after inside, List.flatMap_nil]
    | param k =>
      -- The parameter may be left out, but what follows it starts with a delimiter as well.
      have later : waysThrough (exprs o (groups + 1) ts ++ o.wholeEndingExprs) t = [] :=
        ih capturing.tail apart.tail fun next member => (apart.next next member).2
      rw [waysThrough_param asWritten capturing.head here.isBareRun,
        holds_blocked asWritten here after inside, later]
      simp

/-- What is laid out behind a parameter is empty or starts with a delimiter. -/
theorem layout_opens (apart : Apart o ts) (opens : ∀ next ∈ ts.head?, OpensDelimited o next)
    (raws : List (Option Text)) :
    ∀ d ∈ (layout ts raws).head?, o.delimits d := by
  have started : ∀ {s rest : Text}, (∃ c ∈ s.head?, c ∈ o.delimiter) →
      ∀ d ∈ (s ++ rest).head?, o.delimits d := by
    rintro s rest ⟨c, first, delimiter⟩ d member
    obtain ⟨s, rfl⟩ := List.head?_eq_some_iff.1 first
    obtain rfl := Option.some.inj member
    exact ⟨c, delimiter, .inl rfl⟩
  induction ts generalizing raws with
  | nil => intro d member; cases member
  | cons token ts ih =>
    have here := opens token rfl
    cases token with
    | text s => exact started here
    | param k =>
      have later := ih apart.tail fun next member => (apart.next next member).2
      match raws with
      | [] => exact later []
      | none :: raws => exact later raws
      | some raw :: raws =>
        rw [layout, Key.piece_some, List.append_assoc, List.append_assoc]
        exact started here

end Token

/-! ## Where values end -/

section Values

variable {o : Options} {k : Key} {v raw rest : Text}

/-- A value that stops short of another one leaves a character over that is no delimiter. -/
theorem Options.values_apart (member : v ∈ o.values) (member' : raw ∈ o.values)
    (opens : ∀ d ∈ rest.head?, o.delimits d) (ahead : v <+: raw ++ rest) :
    v = raw ∨ ∃ d rest', (raw ++ rest).drop v.length = d :: rest' ∧ ¬o.delimits d := by
  rcases List.prefix_or_prefix_of_prefix ahead (List.prefix_append raw rest) with short | long
  · -- The value is a beginning of the other one.
    obtain ⟨x, rfl⟩ := short
    cases x with
    | nil => exact .inl (List.append_nil v).symm
    | cons d x =>
      refine .inr ⟨d, x ++ rest, ?_, ?_⟩
      · rw [List.append_assoc, List.drop_left, List.cons_append]
      · exact (mem_values.1 member').2 d (by simp)
  · -- A longer value would hold the delimiter that follows.
    obtain ⟨y, rfl⟩ := long
    cases y with
    | nil => exact .inl (List.append_nil raw)
    | cons c y =>
      rw [List.prefix_append_right_inj] at ahead
      obtain ⟨z, rfl⟩ := ahead
      exact absurd (opens c rfl) ((mem_values.1 member).2 c (by simp))

/-- The last character of what a parameter holds is no delimiter. -/
theorem Key.last_of_mem_runs (member : raw ∈ k.runs o) :
    ∃ init c, raw = init ++ [c] ∧ ¬o.delimits c := by
  have ended : ∀ {v : Text}, v ∈ o.values → ∃ init c, v = init ++ [c] ∧ ¬o.delimits c := by
    intro v value
    obtain ⟨nonempty, inside⟩ := Options.mem_values.1 value
    obtain ⟨init, c, rfl⟩ := (List.eq_nil_or_concat' v).resolve_left nonempty
    exact ⟨init, c, rfl, inside c (by simp)⟩
  unfold runs at member
  split at member
  · obtain ⟨v, first, further, inside, rfl⟩ := Language.mem_mul.1 member
    obtain ⟨parts, rfl, each⟩ := Language.mem_kstar.1 inside
    rcases List.eq_nil_or_concat' parts with rfl | ⟨parts, part, rfl⟩
    · simpa using ended first
    · obtain ⟨turn, -, v', value, rfl⟩ := Language.mem_mul.1 (each part (by simp))
      obtain ⟨init, c, rfl, kept⟩ := ended value
      exact ⟨v ++ parts.flatten ++ turn ++ init, c, by simp, kept⟩
  · exact ended member

end Values

end RoutePattern
