import RoutePattern.Proofs.Token.Capture

/-! # Paths laid out from what the parameters hold

Where letters match in their own case only, the text behind a way through tokens is laid out from the
tokens and from what their groups hold (`Token.layout_of_way`). This is so for every way, not only for
the one that a search answers.
-/

namespace RoutePattern

open RoutePattern.Expr (waysThrough)

/-! ## Layouts -/

namespace Key

/-- A parameter in a path: what it holds between its texts, or nothing if it is left out. -/
def piece (k : Key) (raw : Option Text) : Text := raw.elim [] fun raw => k.lead ++ raw ++ k.trail

/-- What a parameter may hold; nothing, if it is optional. -/
def Holds (o : Options) (k : Key) : Option Text → Prop
  | none => k.isOptional = true
  | some raw => raw ∈ k.runs o

@[simp] theorem piece_none (k : Key) : k.piece none = [] := rfl

@[simp] theorem piece_some (k : Key) (raw : Text) :
    k.piece (some raw) = k.lead ++ raw ++ k.trail := rfl

theorem ne_nil_of_mem_runs {o : Options} {k : Key} {raw : Text} (member : raw ∈ k.runs o) :
    raw ≠ [] := by
  unfold runs at member
  split at member
  · obtain ⟨v, first, rest, -, rfl⟩ := Language.mem_mul.1 member
    intro empty
    exact (Options.mem_values.1 first).1 (List.append_eq_nil_iff.1 empty).1
  · exact (Options.mem_values.1 member).1

end Key

namespace Token

/-- The path of tokens whose parameters hold the texts, in their order. -/
def layout : List Token → List (Option Text) → Text
  | [], _ => []
  | text t :: ts, raws => t ++ layout ts raws
  | param _ :: ts, [] => layout ts []
  | param k :: ts, raw :: raws => k.piece raw ++ layout ts raws

/-- Every parameter captures. -/
def Capturing (ts : List Token) : Prop := ∀ t ∈ ts, ∀ k ∈ t.key?, k.captures = true

instance (ts : List Token) : Decidable (Capturing ts) :=
  inferInstanceAs (Decidable (∀ t ∈ ts, ∀ k ∈ t.key?, k.captures = true))

variable {ts : List Token} {t : Token} {k : Key}

theorem Capturing.tail (capturing : Capturing (t :: ts)) : Capturing ts :=
  fun t' member => capturing t' (List.mem_cons_of_mem t member)

theorem Capturing.head (capturing : Capturing (param k :: ts)) : k.captures = true :=
  capturing (param k) List.mem_cons_self k rfl

end Token

/-! ## Ways -/

namespace Thread

/-- The thread has come from another one past a text. -/
structure Passed (t : Thread) (m : Text) (u : Thread) : Prop where
  ahead : m <+: t.place.after
  place : u.place = t.place.beyond m

theorem Passed.append {t u v : Thread} {m m' : Text} (first : t.Passed m u)
    (second : u.Passed m' v) : t.Passed (m ++ m') v := by
  obtain ⟨ahead, place⟩ := first
  obtain ⟨ahead', place'⟩ := second
  rw [place] at ahead' place'
  exact ⟨Place.append_prefix_after.2 ⟨ahead, ahead'⟩, by rw [place', Place.beyond_beyond]⟩

/-- What the groups from the one behind `group` hold, `n` of them. -/
def raws (t : Thread) (group : Nat) : Nat → List (Option Text)
  | 0 => []
  | n + 1 => t.raw? (group + 1) :: t.raws (group + 1) n

@[simp] theorem length_raws (t : Thread) (group n : Nat) : (t.raws group n).length = n := by
  induction n generalizing group with
  | zero => rfl
  | succ n ih => rw [raws, List.length_cons, ih]

theorem getElem?_raws (t : Thread) {group n i : Nat} (inside : i < n) :
    (t.raws group n)[i]? = some (t.raw? (group + i + 1)) := by
  induction n generalizing group i with
  | zero => cases inside
  | succ n ih =>
    cases i with
    | zero => rfl
    | succ i =>
      rw [raws, List.getElem?_cons_succ, ih (Nat.lt_of_succ_lt_succ inside),
        Nat.add_right_comm group 1 i, Nat.add_assoc group i 1]

end Thread

section Ways

variable {o : Options} {groups : Nat} {k : Key} {t u : Thread} {ts : List Token}

theorem Options.mem_spelling_of_sensitive (exact : o.sensitive = true) {s m : Text} :
    m ∈ o.spelling s ↔ m = s := by
  have same : o.same = fun c d => d = c := by
    ext c d
    simp [Options.same, exact]
  rw [mem_spelling, same]
  constructor
  · intro spelled
    induction spelled with
    | nil => rfl
    | cons here _ ih => rw [here, ih]
  · rintro rfl
    exact List.forall₂_same.2 fun _ _ => rfl

/-- A way through a parameter passes the piece of what its group holds behind it. -/
theorem Key.piece_of_way (exact : o.sensitive = true) (asWritten : o.encode = .identity)
    (captures : k.captures = true) (fresh : t.capture? (groups + 1) = none)
    (way : u ∈ waysThrough (k.exprs o groups) t) :
    k.Holds o (u.raw? (groups + 1)) ∧ t.Passed (k.piece (u.raw? (groups + 1))) u ∧
      ∀ n, n ≠ groups + 1 → u.capture? n = t.capture? n := by
  -- However the way is found, it holds a run between the texts.
  have held : ∀ raw ∈ k.runs o, k.lead ++ raw ++ k.trail <+: t.place.after →
      u = t.hold (groups + 1) k.lead raw k.trail →
      k.Holds o (u.raw? (groups + 1)) ∧ t.Passed (k.piece (u.raw? (groups + 1))) u ∧
        ∀ n, n ≠ groups + 1 → u.capture? n = t.capture? n := by
    rintro raw member ahead rfl
    have nonempty : raw.isEmpty = false := by simpa using k.ne_nil_of_mem_runs member
    rw [Thread.hold_raw? ahead, nonempty]
    exact ⟨member, ⟨ahead, Thread.hold_place t _ _ _ _⟩, fun n other =>
      Thread.hold_capture? other t _ _ _⟩
  cases bare : k.isBareRun with
  | true =>
    obtain ⟨raw, member | ⟨optional, rfl⟩, ahead, rfl⟩ :=
      (Key.mem_ways_bareRun captures asWritten bare).1 way
    · simp only [isBareRun, Bool.and_eq_true, List.isEmpty_iff] at bare
      refine held raw member ?_ ?_
      · rw [bare.1.2, bare.2, List.nil_append, List.append_nil]
        exact ahead
      · rw [bare.1.2, bare.2]
    · -- The group holds an empty text, which is no value.
      rw [Thread.hold_raw? (by simp)]
      exact ⟨optional, ⟨List.nil_prefix, rfl⟩, fun n other => Thread.hold_capture? other t _ _ _⟩
  | false =>
    rw [Key.ways_exprs asWritten captures bare, List.mem_append] at way
    rcases way with present | absent
    · obtain ⟨l, spelled, raw, member, r, spelled', ahead, rfl⟩ :=
        (Key.mem_ways_holdExprs asWritten).1 present
      obtain rfl := (Options.mem_spelling_of_sensitive exact).1 spelled
      obtain rfl := (Options.mem_spelling_of_sensitive exact).1 spelled'
      exact held raw member ahead rfl
    · split at absent
      · rename_i optional
        obtain rfl := List.mem_singleton.1 absent
        rw [Thread.raw?_of_none fresh]
        exact ⟨optional, ⟨List.nil_prefix, rfl⟩, fun _ _ => rfl⟩
      · cases absent

/-- A way through tokens passes the layout of what their groups hold behind it. -/
theorem Token.layout_of_way (exact : o.sensitive = true) (asWritten : o.encode = .identity)
    (capturing : Capturing ts) (fresh : ∀ n, groups < n → t.capture? n = none)
    (way : u ∈ waysThrough (exprs o groups ts) t) :
    List.Forall₂ (Key.Holds o) (keys ts) (u.raws groups (keys ts).length) ∧
      t.Passed (layout ts (u.raws groups (keys ts).length)) u ∧
      ∀ n ≤ groups, u.capture? n = t.capture? n := by
  induction ts generalizing t groups with
  | nil =>
    obtain rfl := List.mem_singleton.1 way
    exact ⟨.nil, ⟨List.nil_prefix, rfl⟩, fun _ _ => rfl⟩
  | cons token ts ih =>
    cases token with
    | text s =>
      rw [exprs, Expr.waysThrough_append, List.mem_flatMap] at way
      obtain ⟨v, first, later⟩ := way
      obtain ⟨m, spelled, ahead, rfl⟩ := (mem_ways_textExprs asWritten).1 first
      obtain rfl := (Options.mem_spelling_of_sensitive exact).1 spelled
      have fresh' : ∀ n, groups < n → (t.skip m).capture? n = none := fresh
      obtain ⟨holds, passed, kept⟩ := ih capturing.tail fresh' later
      have step : t.Passed m (t.skip m) := ⟨ahead, rfl⟩
      exact ⟨holds, step.append passed, kept⟩
    | param k =>
      have captures := capturing.head
      rw [exprs, Expr.waysThrough_append, List.mem_flatMap] at way
      obtain ⟨v, first, later⟩ := way
      rw [Key.groupsBehind, if_pos captures] at later
      obtain ⟨held, step, other⟩ :=
        Key.piece_of_way exact asWritten captures (fresh _ (Nat.lt_succ_self groups)) first
      have fresh' : ∀ n, groups + 1 < n → v.capture? n = none := by
        intro n behind
        rw [other n (by omega)]
        exact fresh n (by omega)
      obtain ⟨holds, passed, kept⟩ := ih capturing.tail fresh' later
      -- The later tokens leave the group of this parameter as it is.
      have same : u.raw? (groups + 1) = v.raw? (groups + 1) :=
        Thread.raw?_of_capture? (kept _ (Nat.le_refl _))
      rw [keys_param captures, List.length_cons, Thread.raws, same]
      refine ⟨.cons held holds, step.append passed, fun n before => ?_⟩
      rw [kept n (by omega), other n (by omega)]

end Ways

end RoutePattern
