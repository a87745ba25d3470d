import Mathlib.Algebra.GroupWithZero.Nat
import RoutePattern.Proofs.Expr.Language
import RoutePattern.Proofs.Expr.Search
import RoutePattern.Proofs.Token.Reading

/-! # The program of a token list

A token list compiles only if no group without any text has a modifier, and then its program is the one
of its parts (`Token.program_eq`). Both engines can take them, so a search from the start of the path
answers with the first way through them (`Token.find?_eq`).
-/

namespace RoutePattern

open RoutePattern.Expr (alt anchor enclosed group look ofParts rep seq)

variable {o : Options} {groups : Nat}

theorem Program.exists_of_ofSource {source : Text} {p : Program}
    (compiled : Program.ofSource o source = .ok p) :
    ∃ n, Expr.read? (o.withCase source) = some n ∧ Program.ofNotated? n = some p := by
  unfold Program.ofSource Program.ofText? at compiled
  split at compiled
  · rename_i found
    obtain rfl := Except.ok.inj compiled
    exact Option.bind_eq_some_iff.1 found
  · cases compiled

theorem minLength_ofParts (es : List Expr) :
    (ofParts es).minLength = (es.map (·.minLength)).sum := by
  induction es with
  | nil => rfl
  | cons e es ih =>
    cases es with
    | nil => simp [ofParts]
    | cons e' es => simp only [ofParts, Expr.minLength, ih, List.map_cons, List.sum_cons]

theorem minLength_pos {e : Expr} {es : List Expr} (member : e ∈ es) (takes : 0 < e.minLength) :
    0 < (ofParts es).minLength := by
  rw [minLength_ofParts, List.sum_pos_iff_exists_pos_nat]
  exact ⟨_, List.mem_map_of_mem member, takes⟩

/-- A part that is tame and matches the texts of its language. -/
def Expr.isPlain (e : Expr) : Bool := e.tame && e.isAnchorless

theorem isPlain_ofParts {es : List Expr} (each : ∀ e ∈ es, e.isPlain = true) :
    (ofParts es).isPlain = true := by
  simp only [Expr.isPlain, Bool.and_eq_true] at each ⊢
  rw [Expr.tame_ofParts, Expr.isAnchorless_ofParts]
  exact ⟨List.all_eq_true.2 fun e member => (each e member).1,
    List.all_eq_true.2 fun e member => (each e member).2⟩

theorem isPlain_applyTo {e : Expr} (plain : e.isPlain = true) {m : Option Modifier}
    (takes : m.isSome = true → 0 < e.minLength) : (Modifier.applyTo m e).isPlain = true := by
  cases m with
  | none => exact plain
  | some m =>
    simp only [Expr.isPlain, Bool.and_eq_true] at plain
    cases m <;>
      simp [Modifier.applyTo, Expr.isPlain, Expr.tame, Expr.isAnchorless, plain, takes rfl,
        Modifier.low, Modifier.high]

theorem Options.isPlain_textExprs (o : Options) (t : Text) :
    ∀ e ∈ o.textExprs t, e.isPlain = true :=
  forall_mem_textExprs (fun _ => rfl) o t

theorem Options.minLength_textExprs (o : Options) (t : Text) :
    ∀ e ∈ o.textExprs t, 0 < e.minLength :=
  forall_mem_textExprs (fun _ => Nat.one_pos) o t

namespace Key

theorem isPlain_between {e : Expr} (plain : e.isPlain = true) (takes : 0 < e.minLength)
    (lead trail : Text) (m : Option Modifier) :
    (Modifier.applyTo m
      (enclosed (ofParts (o.textExprs lead ++ [e] ++ o.textExprs trail)))).isPlain = true := by
  refine isPlain_applyTo (e := enclosed _) (isPlain_ofParts ?_) fun _ => ?_
  · rw [List.forall_mem_append, List.forall_mem_append, List.forall_mem_singleton]
    exact ⟨⟨o.isPlain_textExprs lead, plain⟩, o.isPlain_textExprs trail⟩
  · exact minLength_pos (e := e) (by simp) takes

theorem isPlain_group_segment (o : Options) (n : Nat) : (group n o.segmentExpr).isPlain = true := rfl

theorem isPlain_group_run (o : Options) (n : Nat) (k : Key) :
    (group n (k.runExpr o)).isPlain = true := by
  have others : (enclosed (ofParts (o.textExprs k.trail ++ o.textExprs k.lead ++
      [enclosed o.segmentExpr]))).isPlain = true := by
    refine isPlain_ofParts ?_
    rw [List.forall_mem_append, List.forall_mem_append, List.forall_mem_singleton]
    exact ⟨⟨o.isPlain_textExprs k.trail, o.isPlain_textExprs k.lead⟩, rfl⟩
  have repeated := isPlain_applyTo (m := some .zeroOrMore) others
    fun _ => minLength_pos (e := enclosed o.segmentExpr) (by simp) Nat.one_pos
  simp only [Modifier.applyTo, Modifier.low, Modifier.high, Expr.isPlain, Bool.and_eq_true]
    at repeated ⊢
  have value : o.segmentExpr.tame = true := rfl
  have varies : o.segmentExpr.fixedLength = false := rfl
  have direct : o.segmentExpr.isAnchorless = true := rfl
  constructor
  · simp only [runExpr, Expr.tame, value, varies, Expr.fixedLength, Bool.true_and,
      Bool.false_and, Bool.not_false, Bool.and_true]
    exact repeated.1
  · simp only [runExpr, Expr.isAnchorless, direct, Bool.true_and]
    exact repeated.2

theorem minLength_group_run (o : Options) (n : Nat) (k : Key) :
    (group n (k.runExpr o)).minLength = 1 := by
  simp [runExpr, Expr.minLength, Options.segmentExpr]

/-- Every part of a parameter can be taken by both engines. -/
theorem isPlain_exprs (k : Key) :
    ∀ e ∈ k.exprs o groups, e.isPlain = true := by
  intro e member
  unfold exprs at member
  split at member
  · split at member
    · cases member
    · rename_i filled
      obtain rfl := List.mem_singleton.1 member
      refine isPlain_applyTo (e := enclosed _) (isPlain_ofParts ?_) fun _ => ?_
      · rw [List.forall_mem_append]
        exact ⟨o.isPlain_textExprs k.lead, o.isPlain_textExprs k.trail⟩
      · -- A group that is repeated has a text.
        rw [List.isEmpty_iff] at filled
        obtain ⟨e', inside⟩ := List.exists_mem_of_ne_nil _ filled
        refine minLength_pos inside ?_
        rcases List.mem_append.1 inside with lead | trail
        · exact o.minLength_textExprs k.lead e' lead
        · exact o.minLength_textExprs k.trail e' trail
  · split at member
    · split at member
      · obtain rfl := List.mem_singleton.1 member
        cases k.modifier with
        | none => rfl
        | some m => cases m <;> rfl
      · obtain rfl := List.mem_singleton.1 member
        exact isPlain_applyTo (isPlain_group_segment o _) fun _ => Nat.one_pos
    · split at member
      · obtain rfl := List.mem_singleton.1 member
        exact isPlain_between (isPlain_group_run o _ k)
          (by rw [minLength_group_run]; exact Nat.one_pos) _ _ _
      · obtain rfl := List.mem_singleton.1 member
        exact isPlain_between (isPlain_group_segment o _) Nat.one_pos _ _ _

end Key

/-- What holds of each part that an ending may have holds of the parts of any ending. -/
theorem Options.forall_mem_endingExprs {P : Expr → Prop} (o : Options)
    (delimiter : P (rep (o.classExpr o.delimiter) 0 (some 1) true))
    (delimited : P (rep (enclosed (seq (o.classExpr o.delimiter) (look .ahead false o.stopExpr))) 0
      (some 1) true))
    (textEnd : P (anchor .textEnd)) (stop : P (look .ahead false o.stopExpr))
    (boundary : P (look .ahead false (alt (o.classExpr o.delimiter) o.stopExpr)))
    (ts : List Token) : ∀ e ∈ o.endingExprs ts, P e := by
  have optional : ∀ {e}, P e →
      ∀ e' ∈ (if o.strict || o.delimiter.isEmpty then [] else [e]), P e' := by
    intro e holds
    split
    · exact List.forall_mem_nil P
    · exact List.forall_mem_singleton.2 holds
  simp only [endingExprs, wholeEndingExprs, partialEndingExprs]
  split
  · rw [List.forall_mem_append, List.forall_mem_singleton]
    refine ⟨optional delimiter, ?_⟩
    split
    · exact textEnd
    · exact stop
  · rw [List.forall_mem_append]
    refine ⟨optional delimited, ?_⟩
    split
    · exact List.forall_mem_nil P
    · rw [List.forall_mem_singleton]
      split
      · exact stop
      · exact boundary

theorem Options.groups_stopExpr (o : Options) : o.stopExpr.groups = [] := by
  unfold stopExpr
  split <;> rfl

theorem Options.groups_class (o : Options) (s : Text) : (o.classExpr s).groups = [] := rfl

theorem Options.groups_endingExprs (o : Options) (ts : List Token) :
    ∀ e ∈ o.endingExprs ts, e.groups = [] := by
  apply forall_mem_endingExprs <;> simp [Expr.groups, groups_stopExpr, groups_class]

theorem Options.tame_endingExprs (o : Options) (ts : List Token) :
    ∀ e ∈ o.endingExprs ts, e.tame = true := by
  have stop : o.stopExpr.tame = true ∧ o.stopExpr.needsSearch [] = false := by
    unfold stopExpr
    split <;> exact ⟨rfl, rfl⟩
  have item : ∀ t, (o.classExpr t).tame = true ∧ (o.classExpr t).minLength = 1 ∧
      (o.classExpr t).needsSearch [] = false := fun t => ⟨rfl, rfl, rfl⟩
  apply forall_mem_endingExprs <;>
    simp [Expr.tame, Expr.groups, Expr.needsSearch, Expr.minLength, groups_stopExpr, groups_class,
      stop, item]

/-- Without a character that may follow a whole path there is no look ahead. -/
theorem Options.needsSearch_endingExprs (o : Options) (ts : List Token) (whole : o.anchoredEnd = true)
    (last : o.endsWith = []) : ∀ e ∈ o.endingExprs ts, e.needsSearch [] = false := by
  intro e ending
  simp only [endingExprs, whole, if_true, wholeEndingExprs, last, List.isEmpty_nil] at ending
  rcases List.mem_append.1 ending with delimiter | stop
  · split at delimiter
    · cases delimiter
    · obtain rfl := List.mem_singleton.1 delimiter
      rfl
  · obtain rfl := List.mem_singleton.1 stop
    rfl

namespace Token

theorem isPlain_exprs (o : Options) (groups : Nat) (ts : List Token) :
    ∀ e ∈ exprs o groups ts, e.isPlain = true := by
  induction ts generalizing groups with
  | nil => intro e member; cases member
  | cons t ts ih =>
    intro e member
    cases t with
    | text t =>
      rcases List.mem_append.1 member with here | later
      · exact o.isPlain_textExprs t e here
      · exact ih _ e later
    | param k =>
      rcases List.mem_append.1 member with here | later
      · exact k.isPlain_exprs e here
      · exact ih _ e later

/-- What holds of the start, of plain parts and of the ending holds of all parts. -/
theorem forall_mem_wholeExprs {P : Expr → Prop} {ts : List Token} (start : P (anchor .textStart))
    (inside : ∀ e : Expr, e.isPlain = true → P e) (ending : ∀ e ∈ o.endingExprs ts, P e) :
    ∀ e ∈ wholeExprs o ts, P e := by
  rw [wholeExprs, List.forall_mem_append, List.forall_mem_append]
  refine ⟨⟨?_, fun e member => inside e (isPlain_exprs o 0 ts e member)⟩, ending⟩
  split
  · exact List.forall_mem_singleton.2 start
  · exact List.forall_mem_nil P

theorem tame_whole (o : Options) (ts : List Token) : (ofParts (wholeExprs o ts)).tame = true := by
  rw [Expr.tame_ofParts, List.all_eq_true]
  refine forall_mem_wholeExprs rfl (fun e plain => ?_) (o.tame_endingExprs ts)
  rw [Expr.isPlain, Bool.and_eq_true] at plain
  exact plain.1

/-- An expression for whole paths with nothing to follow needs no search. -/
theorem needsSearch_whole (ts : List Token) (whole : o.anchoredEnd = true) (last : o.endsWith = []) :
    (ofParts (wholeExprs o ts)).needsSearch [] = false := by
  rw [Expr.needsSearch_ofParts, List.any_eq_false]
  simp only [Bool.not_eq_true]
  refine forall_mem_wholeExprs rfl (fun e plain => ?_) (o.needsSearch_endingExprs ts whole last)
  rw [Expr.isPlain, Bool.and_eq_true] at plain
  exact Expr.needsSearch_of_anchorless plain.2

/-- What compiles has a program of its parts. -/
theorem program_eq {ts : List Token} (simple : Token.simple o ts = true) {p : Program}
    (compiled : Program.ofSource o (sourceOf o ts) = .ok p) :
    Token.solid o ts = true ∧
      Program.ofNotated? ⟨ofParts (wholeExprs o ts), groupsBehind 0 ts, []⟩ = some p := by
  obtain ⟨n, read, program⟩ := Program.exists_of_ofSource compiled
  rw [read?_withCase ts simple] at read
  cases solid : Token.solid o ts with
  | false => simp [solid] at read
  | true =>
    rw [solid, if_pos rfl] at read
    obtain rfl := Option.some.inj read
    exact ⟨rfl, program⟩

/-- An expression that must start at the start of the path has ways from there only. -/
theorem ways_anchored (ts : List Token) (anchored : o.anchoredStart = true) (t : Thread) :
    (ofParts (wholeExprs o ts)).ways t =
      if t.place.before = [] then
        Expr.waysThrough (exprs o 0 ts ++ o.endingExprs ts) t
      else [] := by
  rw [Expr.ways_ofParts, wholeExprs, anchored, if_pos rfl, List.append_assoc, List.singleton_append]
  simp only [Expr.waysThrough, Expr.ways, Anchor.holds, List.isEmpty_iff]
  split <;> simp

/-- What a search for a pattern that starts at the start of the path answers. -/
theorem find?_eq {ts : List Token} (simple : Token.simple o ts = true)
    (anchored : o.anchoredStart = true) {p : Program}
    (compiled : Program.ofSource o (sourceOf o ts) = .ok p) {path : Text}
    (finished : p.search path ≠ .gaveUp) :
    p.find? path =
      (Expr.waysThrough (exprs o 0 ts ++ o.endingExprs ts) (.ofPlace (.start path))).head?.map
        fun t => ⟨.start path, t⟩ := by
  obtain ⟨-, program⟩ := program_eq simple compiled
  have from_start : ∀ t : Thread, t.place.before ≠ [] → (ofParts (wholeExprs o ts)).ways t = [] := by
    intro t moved
    rw [ways_anchored ts anchored, if_neg moved]
  rw [Program.find?_anchored (tame_whole o ts) program from_start finished,
    ways_anchored ts anchored, if_pos (by rfl)]

theorem search_ne_gaveUp {ts : List Token} (simple : Token.simple o ts = true) {p : Program}
    (compiled : Program.ofSource o (sourceOf o ts) = .ok p) (whole : o.anchoredEnd = true)
    (last : o.endsWith = []) (path : Text) : p.search path ≠ .gaveUp := by
  obtain ⟨-, program⟩ := program_eq simple compiled
  exact Program.search_ne_gaveUp (needsSearch_whole ts whole last) program path

end Token

end RoutePattern
