import RoutePattern.Proofs.Expr.Thorough
import RoutePattern.Proofs.Token.Ending
import RoutePattern.Proofs.Token.Fragments

/-! # Fragments that mean the same wherever they stand

A fragment that is an expression of its own and asks for nothing around it has a language. With these
languages the tokens of a pattern tell of paths as they do without fragments (`Token.told`), and a
search for such a path that is not given up finds a match (`Token.isSome_find?_of_told`).
-/

namespace RoutePattern

open RoutePattern.Expr (anchor enclosed group look ofParts rep wrapped)
open Expr.Reader (Adds Reads addPart)

variable {o : Options} {k : Key} {ts : List Token} {groups : Nat}

/-! ## Expressions -/

namespace Expr

/-- The expression asks for nothing around it, and its ranges are ranges. -/
def isPortable (e : Expr) : Bool := e.isAnchorless && e.ordered

theorem isPortable_iff {e : Expr} :
    e.isPortable = true ↔ e.isAnchorless = true ∧ e.ordered = true := Bool.and_eq_true_iff

theorem ordered_ofParts (es : List Expr) : (ofParts es).ordered = es.all (·.ordered) := by
  induction es with
  | nil => rfl
  | cons e es ih =>
    cases es with
    | nil => simp [ofParts]
    | cons e' es => simp only [ofParts, ordered, ih, List.all_cons]

theorem isPortable_ofParts (es : List Expr) : (ofParts es).isPortable = es.all (·.isPortable) := by
  rw [isPortable, isAnchorless_ofParts, ordered_ofParts, Bool.eq_iff_iff]
  simp only [Bool.and_eq_true, List.all_eq_true, isPortable]
  exact ⟨fun both e member => ⟨both.1 e member, both.2 e member⟩,
    fun each => ⟨fun e member => (each e member).1, fun e member => (each e member).2⟩⟩

theorem isPortable_applyTo (m : Option Modifier) (e : Expr) :
    (Modifier.applyTo m e).isPortable = e.isPortable := by
  cases m with
  | none => rfl
  | some m =>
    cases m <;> simp [Modifier.applyTo, isPortable, isAnchorless, ordered, Modifier.low, Modifier.high]

theorem isAnchorless_wrapped (e : Expr) : (wrapped e).isAnchorless = e.isAnchorless := by
  by_cases nothing : e = empty
  · rw [nothing]
    rfl
  · simp [wrapped, nothing, isAnchorless]

theorem ordered_wrapped (e : Expr) : (wrapped e).ordered = e.ordered := by
  by_cases nothing : e = empty
  · rw [nothing]
    rfl
  · simp [wrapped, nothing, ordered]

theorem isPortable_wrapped (e : Expr) : (wrapped e).isPortable = e.isPortable := by
  rw [isPortable, isAnchorless_wrapped, ordered_wrapped, isPortable]

theorem isPortable_addPart (e : Expr) : (addPart e []).all (·.isPortable) = e.isPortable := by
  by_cases nothing : e = empty
  · rw [nothing]
    rfl
  · simp [addPart, nothing]

theorem language_wrapped (e : Expr) : (wrapped e).language = e.language := by
  by_cases nothing : e = empty
  · rw [nothing]
    rfl
  · simp [wrapped, nothing, language]

theorem language_addPart (e : Expr) : ((addPart e []).map (·.language)).prod = e.language := by
  by_cases nothing : e = empty
  · rw [nothing]
    rfl
  · simp [addPart, nothing]

theorem isForward_of_anchorless {e : Expr} (anchorless : e.isAnchorless = true) :
    e.isForward = true := by
  induction e with
  | empty | char s => rfl
  | seq a b first second | alt a b first second =>
    simp only [isAnchorless, Bool.and_eq_true] at anchorless
    simp [isForward, first anchorless.1, second anchorless.2]
  | enclosed a ih | group n a ih | rep a low high greedy ih => exact ih anchorless
  | anchor a | look d negative a | atomic a | backref n => cases anchorless

theorem isForward_ofParts (es : List Expr) : (ofParts es).isForward = es.all (·.isForward) := by
  induction es with
  | nil => rfl
  | cons e es ih =>
    cases es with
    | nil => simp [ofParts]
    | cons e' es => simp only [ofParts, isForward, ih, List.all_cons]

end Expr

/-! ## Parameters -/

namespace Key

/-- The fragment is an expression of its own that asks for nothing around it. -/
structure Portable (o : Options) (k : Key) : Prop where
  alone : k.StandsAlone o
  anchorless : (k.fragmentExpr o).isAnchorless = true

theorem fragmentExpr_of_segment (segment : k.fragment = o.segment) :
    k.fragmentExpr o = o.segmentExpr := by
  rw [fragmentExpr, segment, o.ofFragment?_segment, Option.getD_some]

/-- A parameter without a fragment of its own. -/
theorem portable_of_segment (segment : k.fragment = o.segment) : k.Portable o := by
  refine ⟨standsAlone_of_segment segment, ?_⟩
  rw [fragmentExpr_of_segment segment]
  rfl

/-- One occurrence: what the fragment matches, if there is one, between the texts. -/
def toldOnce (o : Options) (k : Key) : Language Char :=
  o.spelling k.lead * (if k.captures then (k.fragmentExpr o).language else 1) * o.spelling k.trail

def told (o : Options) (k : Key) : Language Char := Modifier.times k.modifier (k.toldOnce o)

theorem isPortable_textExprs (o : Options) (t : Text) : (o.textExprs t).all (·.isPortable) = true :=
  List.all_eq_true.2 (o.forall_mem_textExprs (fun _ => rfl) t)

theorem isPortable_heldExpr (portable : (k.fragmentExpr o).isPortable = true) :
    (k.heldExpr o).isPortable = true := by
  unfold heldExpr valueParts
  split_ifs <;>
    simp [Expr.isPortable_ofParts, Expr.isPortable_addPart, Expr.isPortable_applyTo,
      Expr.isPortable_wrapped, isPortable_textExprs, portable]

theorem isPortable_parts (portable : k.captures = true → (k.fragmentExpr o).isPortable = true) :
    (k.parts o groups).all (·.isPortable) = true := by
  have group {n : Nat} {e : Expr} : (group n e).isPortable = e.isPortable := rfl
  unfold parts captures at *
  split_ifs <;>
    simp_all [Expr.isPortable_ofParts, Expr.isPortable_addPart, Expr.isPortable_applyTo,
      Expr.isPortable_wrapped, isPortable_textExprs, isPortable_heldExpr]

theorem language_textExprs (asWritten : o.encode = .identity) (t : Text) :
    ((o.textExprs t).map (·.language)).prod = o.spelling t := by
  rw [o.language_textExprs, asWritten]
  rfl

theorem language_valueParts (o : Options) (k : Key) :
    ((k.valueParts o).map (·.language)).prod = (k.fragmentExpr o).language := by
  rw [valueParts, Expr.language_addPart, Expr.language_wrapped]

/-- A run of values with the texts between them. -/
theorem language_run (asWritten : o.encode = .identity) (k : Key) :
    (ofParts (k.valueParts o ++ addPart (Modifier.applyTo (some .zeroOrMore)
      (wrapped (ofParts (o.textExprs k.trail ++ o.textExprs k.lead ++ k.valueParts o)))) [])).language =
      (k.fragmentExpr o).language *
        KStar.kstar (o.spelling k.trail * o.spelling k.lead * (k.fragmentExpr o).language) := by
  have star (e : Expr) : (Modifier.applyTo (some .zeroOrMore) e).language = KStar.kstar e.language :=
    language_rep_any e true
  simp only [language_ofParts, List.map_append, List.prod_append, language_valueParts,
    Expr.language_addPart, star, Expr.language_wrapped, language_textExprs asWritten]

/-- The parts of a parameter match what it tells of. -/
theorem language_parts (asWritten : o.encode = .identity) (groups : Nat) (k : Key) :
    ((k.parts o groups).map (·.language)).prod = k.told o := by
  have text := language_textExprs asWritten
  have blank : ∀ {t}, (o.textExprs t).isEmpty = true → o.spelling t = 1 := by
    intro t none
    rw [← text, List.isEmpty_iff.1 none]
    rfl
  unfold parts told toldOnce captures
  cases literal : k.fragment.isEmpty with
  | true =>
    rw [if_pos rfl, Expr.language_addPart, language_applyTo, Expr.language_wrapped, language_ofParts,
      List.map_append, List.prod_append, text, text]
    simp
  | false =>
    simp only [Bool.false_eq_true, if_false, Bool.not_false, if_true]
    split
    · -- Without texts around it the value is repeated as it is.
      rename_i none
      rw [Bool.and_eq_true] at none
      rw [List.map_singleton, List.prod_singleton, language_applyTo, Expr.language, blank none.1,
        blank none.2, one_mul, mul_one]
      cases repeats : k.repeats with
      | true =>
        simp [heldExpr, repeats, none, language_ofParts, Expr.language_addPart, language_applyTo,
          Expr.language_wrapped, Modifier.times_none]
      | false => simp [heldExpr, repeats]
    · rename_i some
      rw [Expr.language_addPart, language_applyTo, Expr.language_wrapped, language_ofParts]
      simp only [List.map_append, List.prod_append, text, List.map_singleton, List.prod_singleton,
        Expr.language]
      cases repeats : k.repeats with
      | true =>
        have held : (k.heldExpr o).language = (k.fragmentExpr o).language *
            KStar.kstar (o.spelling k.trail * o.spelling k.lead * (k.fragmentExpr o).language) := by
          rw [heldExpr, repeats, Bool.not_true, if_neg Bool.false_ne_true, if_neg some,
            language_run asWritten]
        rw [← Key.times_run repeats, held, if_pos rfl]
      | false => simp [heldExpr, repeats]

end Key

/-! ## Token lists -/

theorem Options.closes_nil (o : Options) (ts : List Token) : o.closes ts [] [] := by
  refine ⟨.inl rfl, ?_⟩
  split
  · exact Options.opens_nil
  · exact ⟨fun _ => Options.opens_nil, fun _ => Options.opens_nil⟩

/-- The ending leads on from the end of a path. -/
theorem Options.exists_leads_ending (o : Options) (ts : List Token) {p : Place}
    (finished : p.after = []) : ∃ q, (ofParts (o.endingExprs ts)).Leads p q := by
  have tame : (ofParts (o.endingExprs ts)).tame = true := by
    rw [Expr.tame_ofParts]
    exact List.all_eq_true.2 (o.tame_endingExprs ts)
  obtain ⟨u, way⟩ := (Options.exists_ending_iff (t := .ofPlace p) ts).2
    ⟨[], [], finished, o.closes_nil ts⟩
  refine ⟨u.place, (Expr.mem_places_iff_leads tame).1 ?_⟩
  rw [Expr.places, Expr.ways_ofParts]
  exact List.mem_map_of_mem way

theorem Options.isForward_endingExprs (o : Options) (ts : List Token) :
    ∀ e ∈ o.endingExprs ts, e.isForward = true := by
  have stop : o.stopExpr.isForward = true ∧ o.stopExpr.needsSearch [] = false := by
    unfold stopExpr
    split <;> exact ⟨rfl, rfl⟩
  have item : ∀ t, (o.classExpr t).isForward = true ∧ (o.classExpr t).needsSearch [] = false :=
    fun t => ⟨rfl, rfl⟩
  apply forall_mem_endingExprs <;> simp [Expr.isForward, Expr.needsSearch, stop, item]

theorem Options.ordered_endingExprs (o : Options) (ts : List Token) :
    ∀ e ∈ o.endingExprs ts, e.ordered = true := by
  have stop : o.stopExpr.ordered = true := by
    unfold stopExpr
    split <;> rfl
  have item : ∀ t, (o.classExpr t).ordered = true := fun t => rfl
  apply forall_mem_endingExprs <;> simp [Expr.ordered, stop, item]

namespace Token

def told (o : Options) : Token → Language Char
  | text t => o.spelling t
  | param k => k.told o

/-- One piece for each token, in their order. -/
def toldOf (o : Options) (ts : List Token) : Language Char := (ts.map (told o)).prod

theorem language_parts (asWritten : o.encode = .identity) (groups : Nat) (ts : List Token) :
    ((parts o groups ts).map (·.language)).prod = toldOf o ts := by
  unfold toldOf
  induction ts generalizing groups with
  | nil => rfl
  | cons t ts ih =>
    rw [List.map_cons, List.prod_cons]
    cases t with
    | text t =>
      rw [parts, List.map_append, List.prod_append, ih, Key.language_textExprs asWritten]
      rfl
    | param k =>
      rw [parts, List.map_append, List.prod_append, ih, Key.language_parts asWritten]
      rfl

theorem isPortable_parts (portable : ∀ k ∈ keys ts, (k.fragmentExpr o).isPortable = true) :
    (parts o groups ts).all (·.isPortable) = true := by
  induction ts generalizing groups with
  | nil => rfl
  | cons t ts ih =>
    cases t with
    | text t => rw [parts, List.all_append, Key.isPortable_textExprs, ih portable, Bool.and_self]
    | param k =>
      rw [parts, List.all_append, Bool.and_eq_true]
      cases captures : k.captures with
      | true =>
        rw [keys_param captures, List.forall_mem_cons] at portable
        exact ⟨Key.isPortable_parts fun _ => portable.1, ih portable.2⟩
      | false =>
        rw [keys_group captures] at portable
        exact ⟨Key.isPortable_parts (by simp [captures]), ih portable⟩

/-- The whole expression leads on from the start of a path that the tokens tell of. -/
theorem exists_leads_whole (asWritten : o.encode = .identity)
    (portable : ∀ k ∈ keys ts, (k.fragmentExpr o).isPortable = true) {path : Text}
    (told : path ∈ toldOf o ts) : ∃ q, (ofParts (wholeParts o ts)).Leads (.start path) q := by
  have inside : (ofParts (parts o 0 ts)).isAnchorless = true := by
    have whole : (parts o 0 ts).all (·.isPortable) = true := isPortable_parts portable
    rw [← Expr.isPortable_ofParts, Expr.isPortable_iff] at whole
    exact whole.1
  have passed : (Place.start path).pass? path = some ⟨path.length, path.reverse, []⟩ :=
    Place.pass?_eq_some.2 ⟨[], (List.append_nil path).symm, by simp [Place.start]⟩
  obtain ⟨q, ending⟩ := o.exists_leads_ending ts (p := ⟨path.length, path.reverse, []⟩) rfl
  refine ⟨q, ?_⟩
  rw [wholeParts, Expr.leads_ofParts_append]
  refine ⟨_, Expr.leads_ofParts_append.2 ⟨.start path, ?_, ?_⟩, ending⟩
  · split <;> simp [ofParts, Expr.Leads, Anchor.holds, Place.start]
  · rw [Expr.leads_iff_language inside, language_ofParts, language_parts asWritten]
    exact ⟨path, told, passed⟩

/-- What holds of the start, of portable parts and of the ending holds of all parts. -/
theorem forall_mem_wholeParts {P : Expr → Prop} (start : P (anchor .textStart))
    (inside : ∀ e : Expr, e.isPortable = true → P e) (ending : ∀ e ∈ o.endingExprs ts, P e)
    (portable : ∀ k ∈ keys ts, (k.fragmentExpr o).isPortable = true) :
    ∀ e ∈ wholeParts o ts, P e := by
  rw [wholeParts, List.forall_mem_append, List.forall_mem_append]
  refine ⟨⟨?_, fun e member => inside e ?_⟩, ending⟩
  · split
    · exact List.forall_mem_singleton.2 start
    · exact List.forall_mem_nil P
  · exact List.all_eq_true.1 (isPortable_parts portable) e member

/-- A search for a path that the tokens tell of finds a match or is given up. Nothing is given up where
a match must end with the path. -/
theorem isSome_find?_of_told (asWritten : o.encode = .identity) (alone : ∀ k ∈ keys ts, k.StandsAlone o)
    (portable : ∀ k ∈ keys ts, (k.fragmentExpr o).isPortable = true) {p : Program}
    (compiled : Program.ofSource o (sourceOf o ts) = .ok p) {path : Text} (told : path ∈ toldOf o ts)
    (finished : o.anchoredEnd = false ∨ o.endsWith ≠ [] → p.search path ≠ .gaveUp) :
    (p.find? path).isSome = true := by
  obtain ⟨n, read, program⟩ := Program.exists_of_ofSource compiled
  obtain rfl := read?_parts alone read
  obtain ⟨q, leads⟩ := exists_leads_whole asWritten portable told
  have forward : (ofParts (wholeParts o ts)).isForward = true := by
    rw [Expr.isForward_ofParts, List.all_eq_true]
    exact forall_mem_wholeParts rfl
      (fun e inside => Expr.isForward_of_anchorless (Expr.isPortable_iff.1 inside).1)
      (o.isForward_endingExprs ts) portable
  have ordered : (ofParts (wholeParts o ts)).ordered = true := by
    rw [Expr.ordered_ofParts, List.all_eq_true]
    exact forall_mem_wholeParts rfl (fun e inside => (Expr.isPortable_iff.1 inside).2)
      (o.ordered_endingExprs ts) portable
  refine Program.isSome_find? forward ordered program leads ?_
  by_cases whole : o.anchoredEnd = true ∧ o.endsWith = []
  · refine Program.search_ne_gaveUp ?_ program path
    rw [Expr.needsSearch_ofParts, List.any_eq_false]
    simp only [Bool.not_eq_true]
    exact forall_mem_wholeParts rfl
      (fun e inside => Expr.needsSearch_of_anchorless (Expr.isPortable_iff.1 inside).1)
      (o.needsSearch_endingExprs ts whole.1 whole.2) portable
  · refine finished ?_
    by_cases last : o.anchoredEnd = true
    · exact .inr fun none => whole ⟨last, none⟩
    · exact .inl (by simpa using last)

end Token

end RoutePattern
