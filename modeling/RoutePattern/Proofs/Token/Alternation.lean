import RoutePattern.Proofs.Expr.Alternatives
import RoutePattern.Proofs.Token.Capture

/-! # The expression of several token lists

The notation of an alternation is read as the expressions of its members (`read?_alternation`). The
groups of a member are numbered behind those of the members before it, and apart from that it is what
it would be alone (`exprs_renumber`).
-/

namespace RoutePattern

open RoutePattern.Expr (anchor enclosed group ofAlternatives ofParts)
open Expr.Reader (Reads ReadsRest)

variable {o : Options} {d groups : Nat} {k : Key}

namespace Modifier

theorem renumber_applyTo (m : Option Modifier) (e : Expr) :
    (applyTo m e).renumber d = applyTo m (e.renumber d) := by
  cases m <;> rfl

theorem isLive_applyTo (m : Option Modifier) (e : Expr) : (applyTo m e).isLive = e.isLive := by
  cases m with
  | none => rfl
  | some m => cases m <;> simp [applyTo, Expr.isLive, high]

theorem groups_applyTo (m : Option Modifier) (e : Expr) : (applyTo m e).groups = e.groups := by
  cases m <;> rfl

end Modifier

namespace Options

@[simp] theorem renumber_textExprs (o : Options) (t : Text) :
    (o.textExprs t).map (·.renumber d) = o.textExprs t := by
  simp [textExprs, Expr.renumber]

@[simp] theorem renumber_segmentExpr (o : Options) :
    o.segmentExpr.renumber d = o.segmentExpr := rfl

@[simp] theorem all_isLive_textExprs (o : Options) (t : Text) :
    (o.textExprs t).all (·.isLive) = true := by
  simp [textExprs, Expr.isLive]

@[simp] theorem isLive_segmentExpr (o : Options) : o.segmentExpr.isLive = true := rfl

@[simp] theorem flatMap_groups_textExprs (o : Options) (t : Text) :
    (o.textExprs t).flatMap (·.groups) = [] := by
  simp [textExprs, Expr.groups]

@[simp] theorem groups_segmentExpr (o : Options) : o.segmentExpr.groups = [] := rfl

theorem isLive_endingExprs (o : Options) (ts : List Token) :
    ∀ e ∈ o.endingExprs ts, e.isLive = true := by
  have stop : o.stopExpr.isLive = true := by
    unfold stopExpr
    split <;> rfl
  have item : ∀ t, (o.classExpr t).isLive = true := fun t => rfl
  apply forall_mem_endingExprs <;> simp [Expr.isLive, stop, item]

end Options

/-! ## Parameters -/

namespace Key

theorem exprs_renumber (o : Options) (groups : Nat) (k : Key) :
    (k.exprs o groups).map (·.renumber d) = k.exprs o (groups + d) := by
  have run : (k.runExpr o).renumber d = k.runExpr o := by
    simp [runExpr, Expr.renumber, Expr.renumber_ofParts]
  have behind : groups + 1 + d = groups + d + 1 := Nat.add_right_comm groups 1 d
  unfold exprs
  split_ifs <;>
    simp [Modifier.renumber_applyTo, Expr.renumber, Expr.renumber_ofParts, run, behind]

theorem isLive_exprs (o : Options) (groups : Nat) (k : Key) :
    (k.exprs o groups).all (·.isLive) = true := by
  have run : (k.runExpr o).isLive = true := by
    simp [runExpr, Expr.isLive, Expr.isLive_ofParts]
  unfold exprs
  split_ifs <;> simp [Modifier.isLive_applyTo, Expr.isLive, Expr.isLive_ofParts, run]

/-- A parameter has one group if it captures, and it is the next one. -/
theorem groups_exprs (o : Options) (groups : Nat) (k : Key) :
    (k.exprs o groups).flatMap (·.groups) = if k.captures then [groups + 1] else [] := by
  unfold exprs captures
  split_ifs <;>
    simp_all [Modifier.groups_applyTo, Expr.groups, Expr.groups_ofParts, groups_runExpr]

end Key

/-! ## Token lists -/

namespace Token

theorem groupsBehind_eq (groups : Nat) (ts : List Token) :
    groupsBehind groups ts = groups + (keys ts).length := by
  induction ts generalizing groups with
  | nil => rfl
  | cons t ts ih =>
    cases t with
    | text t => exact ih groups
    | param k =>
      have later := ih (k.groupsBehind groups)
      have first : groupsBehind groups (param k :: ts) = groupsBehind (k.groupsBehind groups) ts := rfl
      rw [first, later, Key.groupsBehind]
      cases captures : k.captures with
      | true => rw [if_pos rfl, keys_param captures, List.length_cons, Nat.add_assoc, Nat.add_comm 1]
      | false => rw [if_neg (by simp), keys_group captures]

theorem exprs_renumber (o : Options) (groups : Nat) (ts : List Token) :
    (exprs o groups ts).map (·.renumber d) = exprs o (groups + d) ts := by
  induction ts generalizing groups with
  | nil => rfl
  | cons t ts ih =>
    cases t with
    | text t => simp [exprs, ih]
    | param k =>
      have behind : k.groupsBehind (groups + d) = k.groupsBehind groups + d := by
        unfold Key.groupsBehind
        split
        · exact Nat.add_right_comm groups d 1
        · rfl
      simp [exprs, ih, k.exprs_renumber o groups, behind]

theorem isLive_exprs (o : Options) (groups : Nat) (ts : List Token) :
    ∀ e ∈ exprs o groups ts, e.isLive = true := by
  induction ts generalizing groups with
  | nil => exact List.forall_mem_nil _
  | cons t ts ih =>
    cases t with
    | text t =>
      rw [exprs, List.forall_mem_append]
      exact ⟨List.all_eq_true.1 (o.all_isLive_textExprs t), ih groups⟩
    | param k =>
      rw [exprs, List.forall_mem_append]
      exact ⟨List.all_eq_true.1 (k.isLive_exprs o groups), ih _⟩

/-- The groups of tokens are numbered from the next number on, one for each parameter that captures. -/
theorem groups_exprs (o : Options) (groups : Nat) (ts : List Token) :
    (exprs o groups ts).flatMap (·.groups) = List.range' (groups + 1) (keys ts).length := by
  induction ts generalizing groups with
  | nil => rfl
  | cons t ts ih =>
    cases t with
    | text t => simpa [exprs] using ih groups
    | param k =>
      rw [exprs, List.flatMap_append, k.groups_exprs, ih, Key.groupsBehind]
      cases captures : k.captures with
      | true =>
        rw [if_pos rfl, if_pos rfl, keys_param captures, List.length_cons, List.range'_succ]
        rfl
      | false =>
        rw [if_neg (by simp), if_neg (by simp), keys_group captures]
        rfl

/-- The expression of tokens behind so many groups of others. -/
def memberExpr (o : Options) (groups : Nat) (ts : List Token) : Expr :=
  (ofParts (wholeExprs o ts)).renumber groups

theorem memberExpr_eq (o : Options) (groups : Nat) (ts : List Token) :
    memberExpr o groups ts =
      ofParts ((if o.anchoredStart then [anchor .textStart] else []) ++ exprs o groups ts ++
        o.endingExprs ts) := by
  have ending : (o.endingExprs ts).map (·.renumber groups) = o.endingExprs ts := by
    refine (List.map_congr_left fun e member => ?_).trans (List.map_id _)
    exact Expr.renumber_of_groupless (o.tame_endingExprs ts e member) (o.groups_endingExprs ts e member)
  have start : (if o.anchoredStart then [anchor .textStart] else []).map (·.renumber groups) =
      if o.anchoredStart then [anchor .textStart] else [] := by
    split <;> rfl
  rw [memberExpr, Expr.renumber_ofParts, wholeExprs, List.map_append, List.map_append, start, ending,
    exprs_renumber, Nat.zero_add]

theorem groups_memberExpr (o : Options) (groups : Nat) (ts : List Token) :
    (memberExpr o groups ts).groups = List.range' (groups + 1) (keys ts).length := by
  have ending : (o.endingExprs ts).flatMap (·.groups) = [] :=
    List.flatMap_eq_nil_iff.2 (o.groups_endingExprs ts)
  have start : (if o.anchoredStart then [anchor .textStart] else []).flatMap (·.groups) = [] := by
    split <;> rfl
  rw [memberExpr_eq, Expr.groups_ofParts, List.flatMap_append, List.flatMap_append, start, ending,
    groups_exprs, List.nil_append, List.append_nil]

theorem tame_memberExpr (o : Options) (groups : Nat) (ts : List Token) :
    (memberExpr o groups ts).tame = true := by
  rw [memberExpr, Expr.tame_renumber]
  exact tame_whole o ts

theorem isLive_memberExpr (o : Options) (groups : Nat) (ts : List Token) :
    (memberExpr o groups ts).isLive = true := by
  rw [memberExpr_eq, Expr.isLive_ofParts, List.all_eq_true, List.forall_mem_append,
    List.forall_mem_append]
  refine ⟨⟨?_, isLive_exprs o groups ts⟩, o.isLive_endingExprs ts⟩
  split <;> simp [Expr.isLive]

/-- The members of an alternation, each with its groups behind those of the members before it. -/
def memberExprs (o : Options) (groups : Nat) : List (List Token) → List Expr
  | [] => []
  | ts :: tss => memberExpr o groups ts :: memberExprs o (groupsBehind groups ts) tss

/-- The expression of several token lists. -/
def jointExpr (o : Options) (tss : List (List Token)) : Expr :=
  enclosed (ofAlternatives (memberExprs o 0 tss))

theorem memberExprs_ne_nil {tss : List (List Token)} (filled : tss ≠ []) :
    memberExprs o groups tss ≠ [] := by
  cases tss with
  | nil => exact absurd rfl filled
  | cons ts tss => exact List.cons_ne_nil _ _

/-! ## Reading an alternation -/

section Reading

variable {size depth : Nat}

theorem readsRest_alternatives {tss : List (List Token)} (filled : tss ≠ [])
    (shallow : depth + 4 < Expr.Reader.nestingLimit)
    (simple : ∀ ts ∈ tss, Token.simple o ts = true) (solid : ∀ ts ∈ tss, Token.solid o ts = true)
    (groups : Nat) (earlier : List Expr) :
    ReadsRest size o.relaxed depth groups earlier (['|'].intercalate (tss.map (sourceOf o)))
      (Expr.Reader.alternation earlier (ofAlternatives (memberExprs o groups tss)))
      (groups + (tss.flatMap keys).length) := by
  induction tss generalizing groups earlier with
  | nil => exact absurd rfl filled
  | cons ts tss ih =>
    rw [List.forall_mem_cons] at simple solid
    have first : Reads size o.relaxed depth groups (sourceOf o ts) _ (groupsBehind groups ts) :=
      reads_whole ts shallow simple.1 solid.1
    rw [groupsBehind_eq] at first
    cases tss with
    | nil =>
      have last : ReadsRest size o.relaxed depth groups earlier (sourceOf o ts) _ _ := first.last
      simpa [List.intercalate, memberExprs, ofAlternatives, memberExpr_eq] using last
    | cons ts' tss =>
      -- The parts of the first member stand before the others as one more alternative.
      have others := ih (List.cons_ne_nil ts' tss) simple.2 solid.2 (groupsBehind groups ts)
        (memberExpr o groups ts :: earlier)
      rw [groupsBehind_eq, memberExpr_eq] at others
      have whole := first.before others
      simpa [List.intercalate, List.intersperse, memberExprs, ofAlternatives, memberExpr_eq,
        groupsBehind_eq, Expr.Reader.alternation, Nat.add_assoc] using whole

end Reading

theorem ofAlternatives_memberExprs_ne_empty {tss : List (List Token)} (filled : tss ≠ [])
    (anchored : o.anchoredStart = true) : ofAlternatives (memberExprs o groups tss) ≠ .empty := by
  cases tss with
  | nil => exact absurd rfl filled
  | cons ts tss =>
    cases tss with
    | cons ts' tss => exact Expr.noConfusion
    | nil =>
      -- A single member starts with the start of the path.
      rw [memberExprs, memberExprs, ofAlternatives, memberExpr_eq, anchored, if_pos rfl,
        List.append_assoc, List.singleton_append]
      cases exprs o groups ts ++ o.endingExprs ts with
      | nil => exact Expr.noConfusion
      | cons e es => exact Expr.noConfusion

/-- What the notation of an alternation is read as. -/
theorem read?_alternation {tss : List (List Token)} (filled : tss ≠ [])
    (anchored : o.anchoredStart = true) (simple : ∀ ts ∈ tss, Token.simple o ts = true)
    (solid : ∀ ts ∈ tss, Token.solid o ts = true) :
    Expr.read? (o.withCase (Matcher.alternation (tss.map (sourceOf o)))) =
      some ⟨jointExpr o tss, (tss.flatMap keys).length, []⟩ := by
  obtain ⟨bound, size, enough, read⟩ :=
    o.exists_read?_withCase (t := Matcher.alternation (tss.map (sourceOf o))) rfl
  have inside : ReadsRest size o.relaxed 1 0 [] (['|'].intercalate (tss.map (sourceOf o)))
      (ofAlternatives (memberExprs o 0 tss)) (0 + (tss.flatMap keys).length) :=
    readsRest_alternatives filled (by simp [Expr.Reader.nestingLimit]) simple solid 0 []
  have nonempty : ofAlternatives (memberExprs o 0 tss) ≠ .empty :=
    ofAlternatives_memberExprs_ne_empty filled anchored
  have wrapped : Expr.Reader.wrap (Expr.Reader.plain size o.relaxed 0)
      (ofAlternatives (memberExprs o 0 tss)) (.scoped { relaxed := o.relaxed }) =
        enclosed (ofAlternatives (memberExprs o 0 tss)) := by
    simp [Expr.Reader.wrap, nonempty]
  have whole : Reads size o.relaxed 0 0 (Matcher.alternation (tss.map (sourceOf o)))
      [enclosed (ofAlternatives (memberExprs o 0 tss))] (0 + (tss.flatMap keys).length) := by
    have reads : Reads size o.relaxed 0 0
        ('(' :: ['?', ':'] ++ ['|'].intercalate (tss.map (sourceOf o)) ++ [')'] ++ [])
        (Expr.Reader.addPart (enclosed (ofAlternatives (memberExprs o 0 tss))) [])
        (0 + (tss.flatMap keys).length) :=
      Reads.group ['?', ':'] (.scoped { relaxed := o.relaxed })
        (by simp [Expr.Reader.nestingLimit]) rfl rfl rfl (fun _ => rfl) (fun _ => rfl) inside
        Expr.Reader.counts_nil (by rw [wrapped]; rfl)
    rw [List.append_nil] at reads
    exact reads
  rw [read, whole.notated enough, Nat.zero_add]
  rfl

end Token

end RoutePattern
