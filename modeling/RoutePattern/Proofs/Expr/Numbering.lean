import RoutePattern.Proofs.Expr.Fragment

/-! # Numbers and names of groups

The groups of an expression are numbered in the order in which they are opened (`Body.numbered`), and
the name of a group is the one it was opened with (`Opens.nameOf?`).
-/

namespace RoutePattern.Expr.Reader

variable {ctx ctx' : Context} {depth : Nat} {parts earlier : List Expr} {t rest : Text} {a e : Expr}

/-! ## Numbers -/

theorem groups_alternation (earlier : List Expr) (last : Expr) :
    (alternation earlier last).groups = earlier.reverse.flatMap (·.groups) ++ last.groups := by
  unfold alternation
  induction earlier generalizing last with
  | nil => rfl
  | cons b earlier ih =>
    rw [List.foldl_cons, ih, List.reverse_cons, List.flatMap_append, List.flatMap_singleton,
      Expr.groups, List.append_assoc]

theorem groups_addPart (e : Expr) (parts : List Expr) :
    (addPart e parts).reverse.flatMap (·.groups) = parts.reverse.flatMap (·.groups) ++ e.groups := by
  unfold addPart
  split
  · rename_i nothing
    simp [beq_iff_eq.1 nothing, Expr.groups]
  · simp

/-- A group that captures comes before the groups inside of it. -/
theorem numbered_wrap {head : GroupHead} {n : Nat}
    (inside : a.groups = List.range' ((enter ctx head).groups + 1) n) :
    ∃ k, (enter ctx head).groups + n = ctx.groups + k ∧
      (wrap ctx a head).groups = List.range' (ctx.groups + 1) k := by
  by_cases captures : ∃ name, head = .capture name
  · obtain ⟨name, rfl⟩ := captures
    have entered : (enter ctx (.capture name)).groups = ctx.groups + 1 := by cases name <;> rfl
    rw [entered] at inside ⊢
    exact ⟨n + 1, by omega, by rw [wrap, Expr.groups, inside, List.range'_succ]⟩
  · have plain : ∀ name, head ≠ .capture name := not_exists.1 captures
    have entered : (enter ctx head).groups = ctx.groups := by
      cases head with
      | capture name => exact absurd rfl (plain name)
      | _ => rfl
    rw [entered] at inside ⊢
    exact ⟨n, rfl, (wrap_groups plain ctx).trans inside⟩

/-- The groups that are opened have the next numbers, in the order of the expression. -/
theorem Body.numbered (body : Body ctx depth parts earlier t e ctx' rest) :
    ∃ n, ctx'.groups = ctx.groups + n ∧
      e.groups = (earlier.reverse.flatMap (·.groups) ++ parts.reverse.flatMap (·.groups)) ++
        List.range' (ctx.groups + 1) n := by
  induction body with
  | finish =>
    refine ⟨0, rfl, ?_⟩
    rw [groups_alternation, groups_ofParts, List.range'_zero, List.append_nil]
  | bar _ _ ih =>
    obtain ⟨n, count, groups⟩ := ih
    refine ⟨n, count, ?_⟩
    simpa [groups_ofParts, List.flatMap_append] using groups
  | setting _ _ _ _ _ ih => exact ih
  | reference _ _ _ _ applied _ ih =>
    obtain ⟨n, count, groups⟩ := ih
    refine ⟨n, count, ?_⟩
    simpa [applyRepetition_groups applied, Expr.groups, List.flatMap_append] using groups
  | group _ _ _ _ _ _ applied _ inside behind =>
    obtain ⟨n, entered, held⟩ := inside
    obtain ⟨m, left, groups⟩ := behind
    obtain ⟨k, opened, wrapped⟩ := numbered_wrap held
    rw [leave_groups, entered, opened] at left groups
    refine ⟨k + m, by omega, ?_⟩
    rw [groups, groups_addPart, applyRepetition_groups applied, wrapped,
      ← List.range'_append_1 (s := _ + 1)]
    simp [Nat.add_right_comm]
  | atom _ _ read _ applied _ ih =>
    obtain ⟨n, count, groups⟩ := ih
    rw [readAtom_groups read] at count groups
    refine ⟨n, count, ?_⟩
    simpa [applyRepetition_groups applied, readAtom_groupless read, List.flatMap_append] using groups

/-! ## Names -/

/-- The name of the group number `n`. -/
def Context.nameOf? (ctx : Context) (n : Nat) : Option Text :=
  (ctx.names.find? (·.2 == n)).map (·.1)

/-- The named ones of the groups behind number `groups`, with their numbers. -/
def entries (groups : Nat) (names : List (Option Text)) : List (Text × Nat) :=
  (names.zipIdx (groups + 1)).filterMap fun (name, n) => name.map (·, n)

theorem entries_append (groups : Nat) (names names' : List (Option Text)) :
    entries groups (names ++ names') =
      entries groups names ++ entries (groups + names.length) names' := by
  rw [entries, List.zipIdx_append, List.filterMap_append, Nat.add_right_comm]
  rfl

theorem mem_entries_zero {names : List (Option Text)} {name : Text} {i : Nat} :
    (name, i + 1) ∈ entries 0 names ↔ names[i]? = some (some name) := by
  simp [entries, List.mk_mem_zipIdx_iff_le_and_getElem?_sub]

/-- Between the contexts groups are opened under these names. -/
structure Opens (ctx : Context) (names : List (Option Text)) (ctx' : Context) : Prop where
  groups : ctx'.groups = ctx.groups + names.length
  names : ctx'.names = (entries ctx.groups names).reverse ++ ctx.names

namespace Opens

variable {ctx'' : Context} {names names' : List (Option Text)}

theorem unchanged (groups : ctx'.groups = ctx.groups) (names : ctx'.names = ctx.names) :
    Opens ctx [] ctx' := ⟨groups, names⟩

theorem append (first : Opens ctx names ctx') (second : Opens ctx' names' ctx'') :
    Opens ctx (names ++ names') ctx'' := by
  constructor
  · rw [second.groups, first.groups, List.length_append, Nat.add_assoc]
  · rw [second.names, first.names, first.groups, entries_append, List.reverse_append,
      List.append_assoc]

/-- From the start on, the names are those of the groups in the order of their numbers. -/
theorem nameOf? (opens : Opens ctx names ctx') (start : ctx.groups = 0) (unnamed : ctx.names = [])
    {i : Nat} {name : Option Text} (named : names[i]? = some name) :
    ctx'.nameOf? (i + 1) = name := by
  have listed := opens.names
  rw [start, unnamed, List.append_nil] at listed
  have mem : ∀ text, (text, i + 1) ∈ ctx'.names ↔ name = some text := by
    intro text
    rw [listed, List.mem_reverse, mem_entries_zero, named, Option.some.injEq]
  rw [Context.nameOf?]
  cases found : ctx'.names.find? (·.2 == i + 1) with
  | none =>
    cases name with
    | none => rfl
    | some text =>
      have missing := List.find?_eq_none.1 found _ ((mem text).2 rfl)
      simp at missing
  | some entry =>
    obtain ⟨text, n⟩ := entry
    obtain rfl : n = i + 1 := by simpa using List.find?_some found
    exact ((mem text).1 (List.mem_of_find?_eq_some found)).symm

end Opens

/-! ## Whole notations -/

/-- Reads a whole expression and keeps the context that is left. -/
def readWhole? (t : Text) : Option (Expr × Context) :=
  match readBody (t.length + 1) { size := t.byteLength } 0 [] [] t with
  | some (e, ctx, []) => some (e, ctx)
  | _ => none

theorem read?_eq_map (t : Text) :
    read? t = (readWhole? t).map fun (e, ctx) => ⟨e, ctx.groups, ctx.referred⟩ := by
  rw [read?, readWhole?]
  generalize readBody (t.length + 1) _ 0 [] [] t = read
  rcases read with _ | ⟨e, ctx, _ | ⟨c, rest⟩⟩ <;> rfl

theorem body_of_readWhole? (read : readWhole? t = some (e, ctx)) :
    Body { size := t.byteLength } 0 [] [] t e ctx [] := by
  unfold readWhole? at read
  split at read
  · rename_i found
    cases read
    exact body_of_readBody found
  · cases read

/-- The groups of a whole expression are numbered from one on. -/
theorem groups_of_readWhole? (read : readWhole? t = some (e, ctx)) :
    e.groups = List.range' 1 ctx.groups := by
  obtain ⟨n, count, groups⟩ := (body_of_readWhole? read).numbered
  rw [count, Nat.zero_add]
  exact groups

end RoutePattern.Expr.Reader
