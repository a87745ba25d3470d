import RoutePattern.Proofs.Pattern.Quoted

/-! # Escaped texts

Behind its backslashes a text stands for itself in an expression, and in a class for its characters,
whatever these characters mean to expressions (`Program.exists_ofSource_escaped`). What a class holds
is told by searches: a program that `FindsOne` finds the first character of any text that is held, and
takes that one alone.
-/

namespace RoutePattern

open RoutePattern.Expr (char)
open Expr.Reader (Reads)
open Text.Escape (classOf literal members)

theorem CharSet.leastSize_le (s : CharSet) : s.leastSize ≤ 4 := by
  cases s with
  | single c => exact c.utf8Size_le_four
  | _ => exact Nat.le_add_left 1 3

/-- Where nothing else may match, the pattern of a text has the escaped text as its expression. -/
theorem Options.Bare.sourceOf_ofText {o : Options} (bare : o.Bare) (s : Text) :
    Token.sourceOf o (Token.ofText s) = ['^'] ++ Text.Escape.literal s ++ ['$'] := by
  have written : (Token.ofText s).flatMap (·.source o) = Text.Escape.literal s := by
    unfold Token.ofText
    split
    · rename_i blank
      rw [List.isEmpty_iff.1 blank]
      rfl
    · simp [Token.source, Options.literal, bare.encode, Codec.encode]
  simp [Token.sourceOf, Options.wholeEnding, written, bare.anchoredStart, bare.anchoredEnd,
    bare.strict, bare.endsWith]

namespace Program

/-- The program finds the first character that is held, and takes no other. -/
structure FindsOne (p : Program) (held : Char → Bool) : Prop where
  start : ∀ t, (p.find? t).map (·.start.index) = t.findIdx? held
  text : ∀ t, (p.find? t).map (·.text) = (t.find? held).map ([·])

variable {o : Options} {p : Program} {s t d : Text} {set : CharSet}

/-! ## Classes -/

/-- A search for one character goes on while the characters are not in the set. -/
theorem searchExpr_char (set : CharSet) (index : Nat) (before t : Text) :
    let found := (searchExpr (char set) (Place.onward.go index before t)).found?
    found.map (·.start.index) = (t.findIdx? set.has).map (· + index) ∧
      found.map (·.text) = (t.find? set.has).map ([·]) := by
  induction t generalizing index before with
  | nil => exact ⟨rfl, rfl⟩
  | cons c t ih =>
    have here : (char set).ends [.ofPlace ⟨index, before, c :: t⟩] =
        if set.has c then [.ofPlace ⟨index + 1, c :: before, t⟩] else [] := by
      simp only [Expr.ends, List.filterMap_cons, List.filterMap_nil, Thread.step?, Thread.ofPlace,
        Place.next?]
      split <;> simp_all
    rw [Place.onward.go, searchExpr, here, List.findIdx?_cons, List.find?_cons]
    cases held : set.has c with
    | true =>
      have taken : Found.text ⟨⟨index, before, c :: t⟩, .ofPlace ⟨index + 1, c :: before, t⟩⟩ = [c] := by
        simp [Found.text, Place.textUpTo, Thread.index, Thread.ofPlace]
      simp [Outcome.found?, taken]
    | false =>
      obtain ⟨start, text⟩ := ih (index + 1) (c :: before)
      have further : (fun i => i + 1 + index) = fun i => i + (index + 1) := by
        funext i
        omega
      simp [start, text, Function.comp_def, further]

theorem findsOne_char (set : CharSet) : (settled (char set)).FindsOne set.has := by
  constructor
  · intro t
    have found := (searchExpr_char set 0 [] t).1
    simp only [Nat.add_zero, Option.map_id'] at found
    exact found
  · intro t
    exact (searchExpr_char set 0 [] t).2

/-- What is read as one character compiles, and finds that character. -/
theorem exists_findsOne (reads : ∀ size, Reads size o.relaxed 0 0 t [char set] 0) :
    ∃ p, ofSource o t = .ok p ∧ p.FindsOne set.has := by
  have silent : Expr.Reader.quiet t = true := by simpa using (reads 0).silent [] rfl
  obtain ⟨bound, size, enough, read⟩ := o.exists_read?_withCase silent
  rw [(reads size).notated enough] at read
  have small : set.leastSize + 4 ≤ Expr.sizeLimit :=
    Nat.le_trans (Nat.add_le_add_right set.leastSize_le 4) (by decide)
  have program : ofNotated? ⟨char set, 0, []⟩ = some (settled (char set)) := by
    simp [ofNotated?, Expr.needsSearch, Expr.isSettleable, Expr.ordered, Expr.programSize,
      Expr.writtenSize, small]
  exact ⟨_, ofSource_eq_ok read program, findsOne_char set⟩

theorem exists_findsOne_classOf (o : Options) (nonempty : d ≠ []) :
    ∃ p, ofSource o (classOf d) = .ok p ∧
      p.FindsOne (CharSet.relax o.relaxed (.anyOf (d.map .single))).has := by
  refine exists_findsOne fun size => ?_
  have reads : Reads size o.relaxed 0 0 (classOf d ++ [])
      [char (.relax o.relaxed (.anyOf (d.map .single)))] 0 :=
    Reads.classOf nonempty Expr.Reader.counts_nil rfl
  rwa [List.append_nil] at reads

theorem exists_findsOne_classWithout (o : Options) (nonempty : d ≠ []) :
    ∃ p, ofSource o ("[^".toList ++ members d ++ [']']) = .ok p ∧
      p.FindsOne (CharSet.compl (.relax o.relaxed (.anyOf (d.map .single)))).has := by
  refine exists_findsOne fun size => ?_
  have reads : Reads size o.relaxed 0 0 ("[^".toList ++ members d ++ [']'] ++ [])
      [char (.compl (.relax o.relaxed (.anyOf (d.map .single))))] 0 :=
    Reads.classWithout nonempty Expr.Reader.counts_nil rfl
  rwa [List.append_nil] at reads

/-! ## Texts -/

/-- Of the options only the one for case matters to an expression. -/
theorem exists_bare (sensitive : o.sensitive = true) :
    ∃ o' : Options, o'.Bare ∧ ∀ source, ofSource o' source = ofSource o source :=
  ⟨{ o with
      strict := true, anchoredStart := true, anchoredEnd := true, endsWith := [],
      encode := .identity },
    ⟨sensitive, rfl, rfl, rfl, rfl, rfl⟩, fun _ => rfl⟩

theorem exists_accepts_literal (sensitive : o.sensitive = true)
    (small : s.byteLength + 6 ≤ Expr.sizeLimit) :
    ∃ p, ofSource o (['^'] ++ literal s ++ ['$']) = .ok p ∧ ∀ t, p.accepts t = true ↔ t = s := by
  obtain ⟨o', bare, same⟩ := exists_bare sensitive
  obtain ⟨p, compiled⟩ := Token.exists_program (o := o') (Token.simple_ofText s)
    (Token.solid_ofText s) (by rwa [bare.programSize])
  refine ⟨p, by rwa [← same, ← bare.sourceOf_ofText], fun t => ?_⟩
  rw [accepts, Token.find?_ofText bare compiled]
  split <;> simp_all

theorem small_of_literal (sensitive : o.sensitive = true)
    (compiled : ofSource o (['^'] ++ literal s ++ ['$']) = .ok p) :
    s.byteLength + 6 ≤ Expr.sizeLimit := by
  obtain ⟨o', bare, same⟩ := exists_bare sensitive
  rw [← same, ← bare.sourceOf_ofText] at compiled
  rw [← bare.programSize]
  exact Token.small_of_ofSource (Token.simple_ofText s) bare.anchoredEnd bare.endsWith compiled

/-! ## Both positions -/

/-- An escaped text between the anchors matches that text alone. A class holds the characters that are
escaped in it and no others, and behind a `^` all others. -/
theorem exists_ofSource_escaped (sensitive : o.sensitive = true) :
    (∀ s : Text, s.byteLength + 6 ≤ Expr.sizeLimit →
      ∃ p, ofSource o (['^'] ++ literal s ++ ['$']) = .ok p ∧ ∀ t, p.accepts t = true ↔ t = s) ∧
    ∀ d : Text, d ≠ [] →
      (∃ p, ofSource o (classOf d) = .ok p ∧ p.FindsOne (· ∈ d)) ∧
      ∃ p, ofSource o ("[^".toList ++ members d ++ [']']) = .ok p ∧ p.FindsOne (· ∉ d) := by
  have relaxed : o.relaxed = false := by simp [Options.relaxed, sensitive]
  refine ⟨fun s small => exists_accepts_literal sensitive small, fun d nonempty => ⟨?_, ?_⟩⟩
  · obtain ⟨p, compiled, finds⟩ := exists_findsOne_classOf o nonempty
    rw [relaxed, funext (CharSet.has_singles d)] at finds
    exact ⟨p, compiled, finds⟩
  · obtain ⟨p, compiled, finds⟩ := exists_findsOne_classWithout o nonempty
    have others : (CharSet.compl (.relax false (.anyOf (d.map .single)))).has = (· ∉ d) := by
      funext c
      rw [CharSet.has, CharSet.has_singles, ← decide_not]
    rw [relaxed, others] at finds
    exact ⟨p, compiled, finds⟩

/-- Ranges, the operators of classes, and what counts at the start of a class only. -/
theorem exists_ofSource_escaped_signs :
    (∃ p, ofSource { sensitive := true } "^\\^\\.\\|\\$$".toList = .ok p ∧
      ∀ t, p.accepts t = true ↔ t = "^.|$".toList) ∧
    (∃ p, ofSource { sensitive := true } "[\\^\\]a\\-z\\&\\&\\~\\~\\-\\-\\[]".toList = .ok p ∧
      p.FindsOne (· ∈ "^]a-z&&~~--[".toList)) ∧
    ∃ p, ofSource { sensitive := true } "[^\\^\\]a\\-z\\&\\&\\~\\~\\-\\-\\[]".toList = .ok p ∧
      p.FindsOne (· ∉ "^]a-z&&~~--[".toList) :=
  have escaped := exists_ofSource_escaped (o := { sensitive := true }) rfl
  ⟨escaped.1 "^.|$".toList (by decide +kernel),
    escaped.2 "^]a-z&&~~--[".toList (by decide +kernel)⟩

/-- A text whose expression is above the limit on sizes matches nothing, not even itself. -/
theorem not_exists_ofSource_escaped_large :
    ¬∃ p, ofSource { sensitive := true } (['^'] ++ literal (List.replicate 330000 'a') ++ ['$']) =
        .ok p ∧
      ∀ t, p.accepts t = true ↔ t = List.replicate 330000 'a' := by
  rintro ⟨p, compiled, -⟩
  have small := small_of_literal rfl compiled
  have size : 'a'.utf8Size = 1 := rfl
  rw [Text.byteLength_replicate, size, Expr.sizeLimit] at small
  omega

end Program

end RoutePattern
