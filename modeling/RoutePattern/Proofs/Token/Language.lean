import Mathlib.Algebra.BigOperators.Group.List.Basic
import RoutePattern.Proofs.Token.Plain
import RoutePattern.Proofs.Token.Program

/-! # The paths of a token list

What the tokens of a pattern say about paths, told without an expression: a text stands for itself, a
parameter for values without delimiters between its texts, as often as its modifier allows. The
expression of the tokens matches exactly these paths (`language_exprs`).
-/

namespace RoutePattern

open RoutePattern.Expr (ofParts enclosed group rep)

/-! ## The paths -/

namespace Options

/-- `d` may stand in a path for the character `c` of a pattern. -/
def same (o : Options) (c d : Char) : Prop :=
  d = c ∨ o.sensitive = false ∧ Unicode.fold d = Unicode.fold c

/-- The character is one of the delimiters. -/
def delimits (o : Options) (d : Char) : Prop := ∃ c ∈ o.delimiter, o.same c d

/-- A literal text as it may stand in a path. -/
def spelling (o : Options) (t : Text) : Language Char := {m | List.Forall₂ o.same t m}

/-- The texts that a parameter may hold. -/
def values (o : Options) : Language Char := {v | v ≠ [] ∧ ∀ c ∈ v, ¬o.delimits c}

/-- The text is empty or starts with one of the characters. -/
def opens (o : Options) (characters t : Text) : Prop := ∀ d ∈ t.head?, ∃ c ∈ characters, o.same c d

/-- A path may end in `d`, with `r` behind it, where the tokens have been matched. -/
def closes (o : Options) (ts : List Token) (d r : Text) : Prop :=
  (d = [] ∨ o.strict = false ∧ ∃ c, d = [c] ∧ o.delimits c) ∧
  if o.anchoredEnd then o.opens o.endsWith r
  else (d ≠ [] → o.opens o.endsWith r) ∧
    (o.endsDelimited ts = false → o.opens (o.delimiter ++ o.endsWith) r)

end Options

/-- How often a part may occur. -/
def Modifier.allows : Option Modifier → Nat → Prop
  | none, n => n = 1
  | some .optional, n => n ≤ 1
  | some .zeroOrMore, _ => True
  | some .oneOrMore, n => 1 ≤ n

/-- As many parts as a modifier allows. -/
def Modifier.times (m : Option Modifier) (L : Language Char) : Language Char :=
  {x | ∃ n, allows m n ∧ x ∈ L ^ n}

namespace Key

/-- One occurrence: a value, if the parameter captures any, between its texts. -/
def occurrence (o : Options) (k : Key) : Language Char :=
  o.spelling k.lead * (if k.captures then o.values else 1) * o.spelling k.trail

def language (o : Options) (k : Key) : Language Char :=
  Modifier.times k.modifier (k.occurrence o)

end Key

namespace Token

def language (o : Options) : Token → Language Char
  | text t => o.spelling t
  | param k => k.language o

/-- One piece for each token, in their order. -/
def languageOf (o : Options) (ts : List Token) : Language Char := (ts.map (language o)).prod

end Token

/-! ## Characters -/

section Characters

variable {o : Options} {c d : Char} {t : Text}

theorem Options.has_literal : (CharSet.literal o.relaxed c).has d = true ↔ o.same c d := by
  simp [CharSet.has_literal, Options.relaxed, Options.same]

theorem Options.has_class :
    (CharSet.relax o.relaxed (.anyOf (t.map .single))).has d = true ↔ ∃ c ∈ t, o.same c d := by
  simp only [CharSet.has_relax_singles, Options.has_literal]

theorem Options.has_segment :
    (Expr.Reader.segmentSet o.relaxed o.delimiter).has d = true ↔ ¬o.delimits d := by
  unfold Expr.Reader.segmentSet
  split
  · rename_i blank
    have none : ¬o.delimits d := by simp [Options.delimits, List.isEmpty_iff.1 blank]
    refine iff_of_true ?_ none
    -- Every character is a space or is none.
    cases o.relaxed with
    | false => simp [CharSet.relax, CharSet.has_anyOf, CharSet.has]
    | true =>
      refine CharSet.has_relaxed_anyOf.2 ⟨d, rfl, ?_⟩
      cases space : CharSet.space.has d with
      | true => exact ⟨.space, by simp, space⟩
      | false => exact ⟨.compl .space, by simp, by simp [CharSet.has, space]⟩
  · have complement : ∀ s : CharSet, (CharSet.compl s).has d = true ↔ ¬s.has d = true := by
      simp [CharSet.has]
    rw [complement, Options.has_class]
    rfl

end Characters

/-! ## Parts -/

section Parts

variable {o : Options}

theorem language_ofParts (es : List Expr) :
    (ofParts es).language = (es.map (·.language)).prod := by
  induction es with
  | nil => rfl
  | cons e es ih =>
    cases es with
    | nil => simp [ofParts]
    | cons e' es => simp only [ofParts, Expr.language, ih, List.map_cons, List.prod_cons]

theorem Options.mem_spelling {t m : Text} : m ∈ o.spelling t ↔ List.Forall₂ o.same t m := Iff.rfl

theorem Options.mem_values {v : Text} : v ∈ o.values ↔ v ≠ [] ∧ ∀ c ∈ v, ¬o.delimits c := Iff.rfl

theorem Modifier.mem_times {m : Option Modifier} {L : Language Char} {x : Text} :
    x ∈ times m L ↔ ∃ n, allows m n ∧ x ∈ L ^ n := Iff.rfl

theorem Options.mem_spelling_self (o : Options) (t : Text) : t ∈ o.spelling t :=
  List.forall₂_same.2 fun _ _ => .inl rfl

theorem Options.spelling_nil (o : Options) : o.spelling [] = 1 := by
  ext m
  rw [mem_spelling, Language.mem_one, List.forall₂_nil_left_iff]

theorem Options.language_textExprs (o : Options) (t : Text) :
    ((o.textExprs t).map (·.language)).prod = o.spelling (o.encode.encode t) := by
  unfold Options.textExprs
  induction o.encode.encode t with
  | nil => simp [Options.spelling_nil]
  | cons c t ih =>
    simp only [List.map_cons, List.prod_cons, ih]
    ext m
    rw [Language.mem_mul, mem_spelling, List.forall₂_cons_left_iff]
    constructor
    · rintro ⟨_, ⟨d, held, rfl⟩, m, spelled, rfl⟩
      exact ⟨d, m, has_literal.1 held, spelled, rfl⟩
    · rintro ⟨d, m, held, spelled, rfl⟩
      exact ⟨[d], ⟨d, has_literal.2 held, rfl⟩, m, spelled, rfl⟩

theorem mem_char_pow {s : CharSet} {n : Nat} {m : Text} :
    m ∈ (Expr.char s).language ^ n ↔ m.length = n ∧ ∀ c ∈ m, s.has c = true := by
  induction n generalizing m with
  | zero =>
    rw [pow_zero, Language.mem_one, List.length_eq_zero_iff]
    constructor
    · rintro rfl
      simp
    · exact And.left
  | succ n ih =>
    rw [pow_succ', Language.mem_mul]
    constructor
    · rintro ⟨_, ⟨c, held, rfl⟩, m, power, rfl⟩
      obtain ⟨rfl, all⟩ := ih.1 power
      exact ⟨rfl, by simpa [held] using all⟩
    · rintro ⟨long, all⟩
      cases m with
      | nil => cases long
      | cons c m =>
        have here := all c List.mem_cons_self
        have later := fun d member => all d (List.mem_cons_of_mem c member)
        exact ⟨[c], ⟨c, here, rfl⟩, m, ih.2 ⟨by simpa using long, later⟩, rfl⟩

theorem Options.language_segment (o : Options) : o.segmentExpr.language = o.values := by
  ext v
  rw [mem_values]
  constructor
  · rintro ⟨n, least, -, power⟩
    obtain ⟨rfl, all⟩ := mem_char_pow.1 power
    exact ⟨List.length_pos_iff.1 least, fun c member => has_segment.1 (all c member)⟩
  · rintro ⟨nonempty, all⟩
    exact ⟨v.length, List.length_pos_iff.2 nonempty, rfl,
      mem_char_pow.2 ⟨rfl, fun c member => has_segment.2 (all c member)⟩⟩

theorem language_applyTo (m : Option Modifier) (e : Expr) :
    (Modifier.applyTo m e).language = Modifier.times m e.language := by
  ext x
  rw [Modifier.mem_times]
  cases m with
  | none => simp [Modifier.applyTo, Modifier.allows]
  | some m =>
    refine exists_congr fun n => ?_
    cases m <;> simp [Modifier.allows, Modifier.low, Modifier.high]

/-- An occurrence whose texts surround further occurrences is one more of them. -/
theorem between_pow {L V T : Language Char} {n : Nat} :
    L * (V * (T * L * V) ^ n) * T = (L * V * T) ^ (n + 1) := by
  have turn := mul_pow_mul (L * V) T n
  rw [pow_succ, ← mul_assoc ((L * V * T) ^ n), turn]
  simp only [mul_assoc]

theorem Modifier.times_one (m : Option Modifier) : times m (1 : Language Char) = 1 := by
  ext x
  rw [mem_times]
  simp only [one_pow]
  constructor
  · rintro ⟨-, -, member⟩
    exact member
  · intro member
    refine ⟨1, ?_, member⟩
    cases m with
    | none => rfl
    | some m => cases m <;> simp [allows]

theorem Modifier.times_none (L : Language Char) : times none L = L := by
  ext x
  simp [mem_times, allows]

theorem Modifier.mem_times_optional {L : Language Char} {x : Text} :
    x ∈ times (some .optional) L ↔ x ∈ L ∨ x = [] := by
  rw [mem_times]
  constructor
  · rintro ⟨n, most, member⟩
    rcases Nat.le_one_iff_eq_zero_or_eq_one.1 most with rfl | rfl
    · exact .inr member
    · exact .inl (by rwa [pow_one] at member)
  · rintro (member | rfl)
    · exact ⟨1, Nat.le_refl 1, by rwa [pow_one]⟩
    · exact ⟨0, Nat.zero_le 1, (Language.mem_one _).2 rfl⟩

theorem language_rep_any (e : Expr) (greedy : Bool) :
    (rep e 0 none greedy).language = KStar.kstar e.language := by
  ext x
  rw [Language.kstar_eq_iSup_pow, Language.mem_iSup]
  exact exists_congr fun n => by simp

theorem Key.modifier_of_repeats {k : Key} (repeats : k.repeats = true) :
    k.modifier = some .zeroOrMore ∧ k.isOptional = true ∨
      k.modifier = some .oneOrMore ∧ k.isOptional = false := by
  unfold Key.repeats at repeats
  unfold Key.isOptional
  cases modifier : k.modifier with
  | none => simp [modifier] at repeats
  | some m =>
    cases m with
    | optional => simp [modifier, Modifier.mayRepeat] at repeats
    | zeroOrMore => exact .inl ⟨rfl, rfl⟩
    | oneOrMore => exact .inr ⟨rfl, rfl⟩

/-- A run of values between its texts, where it occurs at all, is a number of occurrences. -/
theorem Key.times_run {k : Key} (repeats : k.repeats = true) (L V T : Language Char) :
    Modifier.times (if k.isOptional then some .optional else none)
        (L * (V * KStar.kstar (T * L * V)) * T) =
      Modifier.times k.modifier (L * V * T) := by
  -- The run counts the occurrences behind the first one.
  have run : L * (V * KStar.kstar (T * L * V)) * T = ⨆ n : Nat, (L * V * T) ^ (n + 1) := by
    simp only [Language.kstar_eq_iSup_pow, Language.mul_iSup, Language.iSup_mul, between_pow]
  ext x
  rw [run, Modifier.mem_times, Modifier.mem_times]
  rcases modifier_of_repeats repeats with ⟨modifier, optional⟩ | ⟨modifier, optional⟩
  · simp only [modifier, optional, if_true, Modifier.allows, true_and]
    constructor
    · rintro ⟨n, most, member⟩
      cases n with
      | zero => exact ⟨0, member⟩
      | succ n =>
        obtain rfl : n = 0 := by omega
        rw [pow_one, Language.mem_iSup] at member
        obtain ⟨n, member⟩ := member
        exact ⟨n + 1, member⟩
    · rintro ⟨n, member⟩
      cases n with
      | zero => exact ⟨0, Nat.zero_le 1, member⟩
      | succ n => exact ⟨1, Nat.le_refl 1, by rw [pow_one, Language.mem_iSup]; exact ⟨n, member⟩⟩
  · simp only [modifier, optional, Bool.false_eq_true, if_false, Modifier.allows, exists_eq_left,
      pow_one, Language.mem_iSup]
    constructor
    · rintro ⟨n, member⟩
      exact ⟨n + 1, Nat.le_add_left 1 n, member⟩
    · rintro ⟨n, least, member⟩
      exact ⟨n - 1, by rwa [Nat.sub_add_cancel least]⟩

theorem Key.language_runExpr (o : Options) (k : Key) :
    (k.runExpr o).language =
      o.values * KStar.kstar (o.spelling (o.encode.encode k.trail) *
        o.spelling (o.encode.encode k.lead) * o.values) := by
  rw [Key.runExpr, Expr.language, language_rep_any, Expr.language, Expr.language, language_ofParts,
    o.language_segment]
  simp only [List.map_append, List.prod_append, o.language_textExprs, List.map_singleton,
    List.prod_singleton, Expr.language, o.language_segment]

/-- A parameter's expression matches the occurrences that its modifier allows. -/
theorem Key.language_exprs {k : Key} (asWritten : o.encode = .identity) (groups : Nat) :
    ((k.exprs o groups).map (·.language)).prod = k.language o := by
  -- The texts may be missing from the expression, and then they match nothing but the empty text.
  have text : ∀ t, ((o.textExprs t).map (·.language)).prod = o.spelling t := by
    intro t
    rw [o.language_textExprs, asWritten]
    rfl
  have blank : ∀ {t}, (o.textExprs t).isEmpty = true → o.spelling t = 1 := by
    intro t none
    rw [← text, List.isEmpty_iff.1 none]
    rfl
  unfold Key.exprs Key.language Key.occurrence Key.captures
  split
  · rename_i literal
    simp only [literal, Bool.not_true, Bool.false_eq_true, if_false, mul_one]
    split
    · rename_i none
      obtain ⟨lead, trail⟩ := List.append_eq_nil_iff.1 (List.isEmpty_iff.1 none)
      rw [blank (List.isEmpty_iff.2 lead), blank (List.isEmpty_iff.2 trail), one_mul,
        Modifier.times_one]
      rfl
    · rw [List.map_singleton, List.prod_singleton, language_applyTo, Expr.language,
        language_ofParts, List.map_append, List.prod_append, text, text]
  · rename_i fragment
    simp only [fragment, Bool.not_false, if_true]
    split
    · -- Without texts around it the value is repeated as it is.
      rename_i none
      rw [Bool.and_eq_true] at none
      rw [blank none.1, blank none.2, one_mul, mul_one]
      split
      · rw [List.map_singleton, List.prod_singleton, Expr.language, language_applyTo, Expr.language,
          o.language_segment]
      · rw [List.map_singleton, List.prod_singleton, language_applyTo, Expr.language,
          o.language_segment]
    · split
      · rename_i repeats
        rw [← Key.times_run repeats, List.map_singleton, List.prod_singleton, language_applyTo,
          Expr.language, language_ofParts]
        simp only [List.map_append, List.prod_append, text, List.map_singleton, List.prod_singleton,
          Expr.language, Key.language_runExpr, asWritten, Codec.encode]
      · rw [List.map_singleton, List.prod_singleton, language_applyTo, Expr.language,
          language_ofParts]
        simp only [List.map_append, List.prod_append, text, List.map_singleton, List.prod_singleton,
          Expr.language, o.language_segment]

/-- The expression of tokens matches the paths that the tokens tell of. -/
theorem Token.language_exprs (asWritten : o.encode = .identity) (groups : Nat) (ts : List Token) :
    ((exprs o groups ts).map (·.language)).prod = languageOf o ts := by
  unfold languageOf
  induction ts generalizing groups with
  | nil => rfl
  | cons t ts ih =>
    rw [List.map_cons, List.prod_cons]
    cases t with
    | text t =>
      rw [exprs, List.map_append, List.prod_append, ih, o.language_textExprs, asWritten]
      rfl
    | param k =>
      rw [exprs, List.map_append, List.prod_append, ih, Key.language_exprs asWritten]
      rfl

/-- Where the ways through the tokens lead. -/
theorem Token.exists_way_iff (asWritten : o.encode = .identity) (ts : List Token) (p q : Place) :
    (∃ u ∈ Expr.waysThrough (exprs o 0 ts) (.ofPlace p), u.place = q) ↔
      ∃ m ∈ languageOf o ts, p.pass? m = some q := by
  have plain := isPlain_ofParts (isPlain_exprs o 0 ts)
  simp only [Expr.isPlain, Bool.and_eq_true] at plain
  rw [← language_exprs asWritten 0 ts, ← language_ofParts, ← Expr.mem_places_iff plain.1 plain.2,
    Expr.places, List.mem_map, Expr.ways_ofParts]

end Parts

end RoutePattern
