import RoutePattern.Proofs.Expr.Captureless
import RoutePattern.Proofs.Expr.Search

/-! # Fragments

A fragment that is an expression of its own (`ofFragment?`) is read as that expression between any
brackets. For a fragment of a pattern it is enough that it keeps within its brackets (`within?`), as it
opens no groups (`isSome_ofFragment?`).

`Adds` says what one part of a notation adds to the parts read before it where the whole notation can be
read, so it tells what a whole is read as without saying when that is. For parts that are always read it
follows from `Reads` (`Reads.adds`), and groups are added by what they hold (`Adds.group`).
-/

namespace RoutePattern.Expr

open Reader (readBody plain)

/-- What a text is read as between brackets, and how many groups it opens. It must end at the bracket
that closes them and leave the flags as they are. -/
def within? (relaxed : Bool) (t : Text) : Option (Expr × Nat) :=
  match readBody (t.length + 2) (plain 0 relaxed 0) 0 [] [] (t ++ [')']) with
  | some (e, ctx, [')']) => if ctx.flags = { relaxed } then some (e, ctx.groups) else none
  | _ => none

/-- What a text that opens no groups is read as between brackets. -/
def ofFragment? (relaxed : Bool) (t : Text) : Option Expr :=
  match within? relaxed t with
  | some (e, 0) => some e
  | _ => none

/-- An expression between brackets that capture nothing; nothing stays nothing. -/
def wrapped (e : Expr) : Expr := if e == empty then empty else enclosed e

namespace Reader

variable {size : Nat} {relaxed : Bool} {depth groups groups' groups'' : Nat} {s t m : Text}
  {a e : Expr} {es es' : List Expr}

/-! ## What is read between brackets -/

theorem body_of_within? (found : within? relaxed t = some (e, groups)) :
    ∃ ctx, ctx.flags = { relaxed } ∧ ctx.groups = groups ∧
      Body (plain 0 relaxed 0) 0 [] [] (t ++ [')']) e ctx [')'] := by
  unfold within? at found
  split at found
  · rename_i ctx read
    split at found
    · rename_i flags
      obtain ⟨rfl, rfl⟩ := Prod.mk.inj (Option.some.inj found)
      exact ⟨ctx, flags, rfl, body_of_readBody read⟩
    · cases found
  · cases found

theorem ofFragment?_eq_some_iff :
    ofFragment? relaxed t = some e ↔ within? relaxed t = some (e, 0) := by
  unfold ofFragment?
  split
  · rename_i found
    simp [found]
  · rename_i other
    simpa using fun found => other e found

/-- A fragment of a pattern opens no groups, so it is an expression if it keeps within its brackets. -/
theorem isSome_ofFragment? (isFragment : Lexeme.IsFragment t)
    (confined : (within? relaxed t).isSome = true) : (ofFragment? relaxed t).isSome = true := by
  obtain ⟨⟨e, groups⟩, found⟩ := Option.isSome_iff_exists.1 confined
  obtain ⟨ctx, -, rfl, body⟩ := body_of_within? found
  have groupless : ctx.groups = 0 := groups_eq_of_isFragment isFragment body
  rw [groupless] at found
  rw [ofFragment?_eq_some_iff.2 found, Option.isSome_some]

theorem body_of_ofFragment? (found : ofFragment? relaxed t = some e) (size groups : Nat)
    (rest : Text) :
    Body (plain size relaxed groups) 0 [] [] (t ++ ')' :: rest) e (plain size relaxed groups)
      (')' :: rest) := by
  obtain ⟨ctx, kept, groupless, body⟩ := body_of_within? (ofFragment?_eq_some_iff.1 found)
  obtain ⟨flags, rfl, within⟩ := body.within rfl groupless (List.cons_ne_nil _ _)
  obtain rfl : flags = { relaxed } := kept
  simpa [bare, plain] using within size groups rest

theorem readAtom_groupless {ctx ctx' : Context} {rest : Text}
    (read : readAtom ctx t = some (e, ctx', rest)) : e.groups = [] := by
  unfold readAtom at read
  split at read
  case h_4 =>
    obtain ⟨found, -, same⟩ := Option.map_eq_some_iff.1 read
    cases same
    rfl
  case h_5 =>
    split at read <;> cases read <;> rfl
  all_goals
    cases read
    try rfl

theorem applyRepetition_groups {times : Option Repetition}
    (applied : applyRepetition a times = some e) : e.groups = a.groups := by
  unfold applyRepetition at applied
  split at applied
  · cases applied
    rfl
  · split at applied
    · cases applied
      split <;> rfl
    · cases applied

theorem groups_bare (e : Expr) : e.bare.groups = e.groups := by
  induction e with
  | enclosed a ih => exact ih
  | _ => rfl

theorem wrap_groups {head : GroupHead} (plain : ∀ name, head ≠ .capture name) (ctx : Context) :
    (wrap ctx a head).groups = a.groups := by
  cases head with
  | capture name => exact absurd rfl (plain name)
  | look d negative => exact groups_bare a
  | setting flags | reference n | atomic => rfl
  | _ =>
    by_cases nothing : a = empty
    · rw [nothing]
      rfl
    · simp [wrap, nothing, Expr.groups]

theorem groupless_alternation {earlier : List Expr} (groupless : ∀ a ∈ earlier, a.groups = [])
    (last : a.groups = []) : (alternation earlier a).groups = [] := by
  unfold alternation
  induction earlier generalizing a with
  | nil => exact last
  | cons b earlier ih =>
    rw [List.forall_mem_cons] at groupless
    exact ih groupless.2 (by simp [Expr.groups, groupless.1, last])

theorem groupless_ofParts_reverse {parts : List Expr} (groupless : ∀ a ∈ parts, a.groups = []) :
    (ofParts parts.reverse).groups = [] := by
  rw [groups_ofParts, List.flatMap_eq_nil_iff]
  exact fun a member => groupless a (List.mem_reverse.1 member)

/-- What opens no groups has none. -/
theorem Body.groupless {ctx ctx' : Context} {parts earlier : List Expr} {rest : Text}
    (body : Body ctx depth parts earlier t e ctx' rest) (same : ctx'.groups = ctx.groups)
    (before : ∀ a ∈ parts, a.groups = []) (others : ∀ a ∈ earlier, a.groups = []) :
    e.groups = [] := by
  induction body with
  | finish => exact groupless_alternation others (groupless_ofParts_reverse before)
  | bar _ _ ih =>
    exact ih same (List.forall_mem_nil _)
      (List.forall_mem_cons.2 ⟨groupless_ofParts_reverse before, others⟩)
  | setting _ _ _ _ _ ih => exact ih same before others
  | reference _ _ _ _ applied _ ih =>
    exact ih same (List.forall_mem_cons.2 ⟨applyRepetition_groups applied, before⟩) others
  | group _ _ _ _ body _ applied behind inside outside =>
    obtain ⟨within, entered, plain⟩ := body.not_capture behind same
    have held := inside (within.trans entered.symm) (List.forall_mem_nil _) (List.forall_mem_nil _)
    have added := (applyRepetition_groups applied).trans (wrap_groups plain _)
    refine outside ?_ ?_ others
    · rw [leave_groups, within, same]
    · unfold addPart
      split
      · exact before
      · exact List.forall_mem_cons.2 ⟨added.trans held, before⟩
  | atom _ _ read _ applied _ ih =>
    have kept := readAtom_groups read
    refine ih (same.trans kept.symm) (List.forall_mem_cons.2 ⟨?_, before⟩) others
    rw [applyRepetition_groups applied, readAtom_groupless read]

theorem groupless_of_ofFragment? (found : ofFragment? relaxed t = some e) : e.groups = [] :=
  (body_of_ofFragment? found 0 0 []).groupless rfl (List.forall_mem_nil _)
    (List.forall_mem_nil _)

/-- Between a bracket and the one that closes it, `t` can only be read as `a`. -/
structure Bracketed (size : Nat) (relaxed : Bool) (depth groups : Nat) (t : Text) (a : Expr)
    (groups' : Nat) : Prop where
  /-- It does not change the kind of the group. -/
  starts : ∀ rest, ∃ u, skip { relaxed } (t ++ ')' :: rest) = some u ∧ u.head? ≠ some '?'
  unique : ∀ {rest : Text} {e : Expr} {ctx : Context} {rest' : Text},
    Body (plain size relaxed groups) depth [] [] (t ++ ')' :: rest) e ctx rest' →
      e = a ∧ ctx = plain size relaxed groups' ∧ rest' = ')' :: rest

theorem head?_of_quiet (silent : quiet t = true) : t.head? ≠ some '?' := by
  cases t with
  | nil => simp
  | cons c t =>
    rintro ⟨⟩
    cases silent

theorem Body.head?_skipped {ctx ctx' : Context} {parts earlier : List Expr} {rest u : Text}
    (body : Body ctx depth parts earlier t e ctx' rest) (skipped : skip ctx.flags t = some u) :
    u.head? ≠ some '?' := by
  cases body with
  | finish skipped' closing =>
    obtain rfl := Option.some.inj (skipped.symm.trans skipped')
    exact head?_of_quiet (quiet_of_closes closing)
  | bar skipped' | setting skipped' | reference skipped' | group skipped' =>
    obtain rfl := Option.some.inj (skipped.symm.trans skipped')
    simp
  | atom skipped' opens =>
    obtain rfl := Option.some.inj (skipped.symm.trans skipped')
    cases u with
    | nil => cases opens
    | cons c u =>
      rintro ⟨⟩
      cases opens

/-- However deep it is nested, a fragment is read there as it is read on its own. -/
theorem bracketed_of_ofFragment? (found : ofFragment? relaxed t = some e) :
    Bracketed size relaxed depth groups t e groups := by
  have body := body_of_ofFragment? found size groups
  constructor
  · intro rest
    obtain ⟨u, skipped⟩ := (body rest).skipped
    exact ⟨u, skipped, (body rest).head?_skipped skipped⟩
  · intro rest e' ctx rest' body'
    exact (body rest).unique (body'.shallower (Nat.zero_le depth))

/-! ## What a part adds -/

/-- Where `t` is read with something that is quiet behind it, it adds `es` to the sequence and opens the
groups behind number `groups` up to `groups'`. -/
structure Adds (size : Nat) (relaxed : Bool) (depth groups : Nat) (t : Text) (es : List Expr)
    (groups' : Nat) : Prop where
  silent : ∀ rest, quiet rest = true → quiet (t ++ rest) = true
  behind : ∀ {parts earlier : List Expr} {rest : Text} {e : Expr} {ctx : Context} {rest' : Text},
    quiet rest = true →
      Body (plain size relaxed groups) depth parts earlier (t ++ rest) e ctx rest' →
        Body (plain size relaxed groups') depth (es.reverse ++ parts) earlier rest e ctx rest'

theorem Reads.adds (reads : Reads size relaxed depth groups t es groups') :
    Adds size relaxed depth groups t es groups' := by
  refine ⟨reads.silent, fun {parts earlier rest e ctx rest'} following body => ?_⟩
  obtain ⟨least, read⟩ := body.exists_bound
  have enough : (t ++ rest).length < max least ((t ++ rest).length + 1) := by omega
  obtain ⟨bound, -, same⟩ := reads.read parts earlier enough following
  rw [read _ (Nat.le_max_left _ _)] at same
  exact body_of_readBody same.symm

theorem Adds.append (first : Adds size relaxed depth groups s es groups')
    (second : Adds size relaxed depth groups' t es' groups'') :
    Adds size relaxed depth groups (s ++ t) (es ++ es') groups'' := by
  constructor
  · intro rest following
    rw [List.append_assoc]
    exact first.silent _ (second.silent rest following)
  · intro parts earlier rest e ctx rest' following body
    rw [List.append_assoc] at body
    rw [List.reverse_append, List.append_assoc]
    exact second.behind following (first.behind (second.silent rest following) body)

theorem Body.finish_eq {ctx ctx' : Context} {parts earlier : List Expr} {rest : Text}
    (body : Body ctx depth parts earlier t e ctx' rest) (skipped : skip ctx.flags t = some t)
    (closing : closes t = true) :
    e = alternation earlier (ofParts parts.reverse) ∧ ctx' = ctx ∧ rest = t := by
  cases body with
  | finish skipped' =>
    obtain rfl := Option.some.inj (skipped.symm.trans skipped')
    exact ⟨rfl, rfl, rfl⟩
  | bar skipped' | setting skipped' | reference skipped' | group skipped' =>
    obtain rfl := Option.some.inj (skipped.symm.trans skipped')
    cases closing
  | atom skipped' opens =>
    obtain rfl := Option.some.inj (skipped.symm.trans skipped')
    cases t with
    | nil => cases opens
    | cons c t =>
      unfold closes at closing
      split at closing <;> simp_all [opensAtom]

/-- What adds its parts holds them between brackets. -/
theorem Adds.bracketed (adds : Adds size relaxed depth groups t es groups') :
    Bracketed size relaxed depth groups t (ofParts es) groups' := by
  constructor
  · intro rest
    have silent := adds.silent (')' :: rest) rfl
    exact ⟨_, skip_quiet silent, head?_of_quiet silent⟩
  · intro rest e ctx rest' body
    have behind := adds.behind rfl body
    have ended := behind.finish_eq (skip_quiet rfl) rfl
    simpa [alternation] using ended

/-! ## Groups -/

/-- What was read where a group opens starts with that group. -/
theorem Body.of_group {ctx ctx' : Context} {parts earlier : List Expr} {inner held rest : Text}
    {head : GroupHead} (body : Body ctx depth parts earlier t e ctx' rest)
    (skipped : skip ctx.flags t = some ('(' :: inner))
    (opened : (skip ctx.flags inner).bind (readGroupHead ctx) = some (head, held))
    (encloses : head.encloses = true) :
    ∃ a inside behind times next e',
      Body (enter ctx head) (depth + 1) [] [] held a inside (')' :: behind) ∧
      readRepetition (leave ctx inside head).flags behind = some (times, next) ∧
      applyRepetition (wrap ctx a head) times = some e' ∧
      Body (leave ctx inside head) depth (addPart e' parts) earlier next e ctx' rest := by
  have agrees : ∀ {inner' held' : Text} {head' : GroupHead},
      skip ctx.flags t = some ('(' :: inner') →
      (skip ctx.flags inner').bind (readGroupHead ctx) = some (head', held') →
      head' = head ∧ held' = held := by
    intro inner' held' head' skipped' opened'
    obtain ⟨-, rfl⟩ := List.cons.inj (Option.some.inj (skipped.symm.trans skipped'))
    obtain ⟨rfl, rfl⟩ := Prod.mk.inj (Option.some.inj (opened.symm.trans opened'))
    exact ⟨rfl, rfl⟩
  cases body with
  | finish skipped' closing =>
    obtain rfl := Option.some.inj (skipped.symm.trans skipped')
    cases closing
  | bar skipped' => cases skipped.symm.trans skipped'
  | setting skipped' _ opened' | reference skipped' _ opened' =>
    obtain ⟨rfl, -⟩ := agrees skipped' opened'
    cases encloses
  | group skipped' _ opened' _ inside counted applied more =>
    obtain ⟨rfl, rfl⟩ := agrees skipped' opened'
    exact ⟨_, _, _, _, _, _, inside, counted, applied, more⟩
  | atom skipped' opens =>
    obtain rfl := Option.some.inj (skipped.symm.trans skipped')
    cases opens

/-- One step over a whole group and the counts behind it. -/
theorem Adds.group (opening : Text) (head : GroupHead) {inner : Nat} {times : Option Repetition}
    (encloses : head.encloses = true)
    (entered : enter (plain size relaxed groups) head = plain size relaxed inner)
    (left : leave (plain size relaxed groups) (plain size relaxed groups') head =
      plain size relaxed groups')
    (silent : ∀ rest, quiet ('(' :: opening ++ (t ++ ')' :: rest)) = true)
    (opens : ∀ rest, ∃ u, skip { relaxed } u = skip { relaxed } (t ++ ')' :: rest) ∧
      (skip { relaxed } (opening ++ (t ++ ')' :: rest))).bind
        (readGroupHead (plain size relaxed groups)) = some (head, u))
    (inside : Bracketed size relaxed (depth + 1) inner t a groups')
    (counts : Counts relaxed m times)
    (applied : ∀ e', applyRepetition (wrap (plain size relaxed groups) a head) times = some e' →
      addPart e' [] = es) :
    Adds size relaxed depth groups ('(' :: opening ++ t ++ [')'] ++ m) es groups' := by
  have shape : ∀ rest, '(' :: opening ++ t ++ [')'] ++ m ++ rest =
      '(' :: opening ++ (t ++ ')' :: (m ++ rest)) := by simp
  constructor
  · intro rest _
    rw [shape]
    exact silent _
  · intro parts earlier rest e ctx rest' following body
    rw [shape] at body
    obtain ⟨u, same, opened⟩ := opens (m ++ rest)
    obtain ⟨a', within, behind, times', next, e', held, counted, applied', more⟩ :=
      body.of_group (skip_quiet (silent (m ++ rest))) opened encloses
    rw [entered] at held
    obtain ⟨rfl, rfl, ended⟩ := inside.unique (held.of_skip same)
    obtain ⟨-, rfl⟩ := List.cons.inj ended
    rw [left] at counted more
    obtain ⟨rfl, rfl⟩ := Prod.mk.inj (Option.some.inj (counted.symm.trans (counts rest following)))
    have added := applied e' applied'
    unfold addPart at added more
    split at added <;> rename_i nothing <;> subst added
    · rwa [if_pos nothing] at more
    · rwa [if_neg nothing] at more

end Reader

end RoutePattern.Expr
