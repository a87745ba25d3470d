import RoutePattern.Proofs.Except
import RoutePattern.Proofs.Expr.Numbering
import RoutePattern.Proofs.Matcher.Legible
import RoutePattern.Proofs.Token.Program

/-! # Matchers of hand-written expressions

The keys of a legible expression are those of its groups: one for each, in the order of their numbers,
with the name of the group or its place among the groups without a name
(`Matcher.keys_ofExpression`).
-/

namespace RoutePattern

open RoutePattern.Expr (Notated)
open Expr.Reader

/-- What a group is called that has `ordinal` groups without a name before it. -/
def Name.ofGroup (ordinal : Nat) : Option Text → Name
  | some name => .named name
  | none => .ordinal ordinal

namespace Expr.Reader

/-- The groups that a bracket of this kind opens. -/
def GroupHead.names : GroupHead → List (Option Text)
  | .capture name => [name]
  | .look _ _ | .atomic | .scoped _ | .setting _ | .reference _ => []

theorem GroupHead.names_eq_nil {head : GroupHead} (plain : ∀ name, head ≠ .capture name) :
    head.names = [] := by
  cases head with
  | capture name => exact absurd rfl (plain name)
  | _ => rfl

/-- What the group number `n` is called: its name, or else its place among the groups without a name. -/
def Context.groupName (ctx : Context) (n : Nat) : Name :=
  .ofGroup ((List.range' 1 (n - 1)).countP fun m => (ctx.nameOf? m).isNone) (ctx.nameOf? n)

theorem Opens.groupName {ctx ctx' : Context} {names : List (Option Text)} (opens : Opens ctx names ctx') (start : ctx.groups = 0) (unnamed : ctx.names = [])
    {i : Nat} {name : Option Text} (named : names[i]? = some name) :
    ctx'.groupName (i + 1) = .ofGroup ((names.take i).count none) name := by
  have nameless : ∀ k, k ≤ names.length →
      (List.range' 1 k).countP (fun m => (ctx'.nameOf? m).isNone) = (names.take k).count none := by
    intro k bound
    induction k with
    | zero => rfl
    | succ k ih =>
      have next : names[k]? = some names[k] := List.getElem?_eq_getElem bound
      rw [List.range'_concat, List.countP_append, ih (Nat.le_of_succ_le bound), List.take_add_one,
        next, List.count_append, Nat.one_mul, Nat.add_comm 1 k, List.countP_singleton,
        opens.nameOf? start unnamed next]
      cases names[k] <;> rfl
  have bound : i < names.length := (List.getElem?_eq_some_iff.1 named).1
  rw [Context.groupName, opens.nameOf? start unnamed named, Nat.add_sub_cancel,
    nameless i (Nat.le_of_lt bound)]

end Expr.Reader

namespace Matcher

variable {spaced : Bool} {t inner held rest : Text}

/-! ## What opens a group -/

theorem groupName?_eq_none (short : ∀ u, t ≠ '?' :: '<' :: u) (long : ∀ u, t ≠ '?' :: 'P' :: '<' :: u) :
    groupName? t = none := by
  have noShort : Text.dropHead? "?<".toList t = none :=
    Option.eq_none_iff_forall_ne_some.2 fun u found => short u (Text.dropHead?_eq_some.1 found)
  have noLong : Text.dropHead? "?P<".toList t = none :=
    Option.eq_none_iff_forall_ne_some.2 fun u found => long u (Text.dropHead?_eq_some.1 found)
  rw [groupName?, noLong, noShort]
  rfl

theorem groupName?_eq_some {name : Text} (found : readName '>' t = some (name, rest)) :
    groupName? ('?' :: '<' :: t) = some name ∧ groupName? ('?' :: 'P' :: '<' :: t) = some name := by
  obtain ⟨rfl, chars, nonempty⟩ := exists_of_readName found
  have other : ∀ c ∈ name, c ≠ '=' ∧ c ≠ '!' ∧ c ≠ '>' := by
    intro c member
    have named := List.all_eq_true.1 chars c member
    refine ⟨?_, ?_, ?_⟩ <;>
    · rintro rfl
      exact absurd named (Bool.eq_false_iff.1 rfl)
  have taken : (name ++ '>' :: rest).takeWhile (· != '>') = name := by
    rw [List.takeWhile_append_of_pos fun c member => by simpa using (other c member).2.2]
    simp
  obtain ⟨c, name, rfl⟩ := List.exists_cons_of_ne_nil nonempty
  obtain ⟨notAhead, notNegative, -⟩ := other c (List.mem_cons_self)
  constructor <;>
  · simp only [groupName?]
    simpa [Text.dropHead?, notAhead, notNegative] using taken

/-- What tells the kind of a group tells its name. -/
theorem names_of_readGroupHead {ctx : Context} {head : GroupHead}
    (read : readGroupHead ctx ('?' :: t) = some (head, held)) :
    head.names = (groupName? ('?' :: t)).toList.map some := by
  unfold readGroupHead at read
  split at read
  -- The two forms of a named group, a reference, and flags; all others are marks of one kind.
  case h_5 =>
    rename_i same
    obtain ⟨⟨name, u⟩, found, same'⟩ := Option.map_eq_some_iff.1 read
    cases same
    cases same'
    rw [(groupName?_eq_some found).1]
    rfl
  case h_6 =>
    rename_i same
    obtain ⟨⟨name, u⟩, found, same'⟩ := Option.map_eq_some_iff.1 read
    cases same
    cases same'
    rw [(groupName?_eq_some found).2]
    rfl
  case h_7 =>
    rename_i same
    obtain ⟨⟨name, u⟩, -, referred⟩ := Option.bind_eq_some_iff.1 read
    obtain ⟨n, -, same'⟩ := Option.map_eq_some_iff.1 referred
    cases same
    cases same'
    rfl
  case h_9 =>
    rename_i short long _ _ same
    cases same
    obtain ⟨-, plain, -⟩ := walks_readFlags (fun _ => rfl) (.inl rfl) read
    have unnamed : groupName? ('?' :: t) = none := by
      refine groupName?_eq_none (fun u same => ?_) (fun u same => ?_)
      · exact short u (List.cons.inj same).2
      · exact long u (List.cons.inj same).2
    rw [GroupHead.names_eq_nil plain, unnamed]
    rfl
  case h_10 =>
    rename_i flags
    exact absurd rfl (flags t)
  all_goals
    rename_i same
    cases same
    cases read
    rfl

/-! ## Keys -/

/-- The keys of groups with these names; those without one are numbered from `ordinal`. -/
def keysOf : (ordinal : Nat) → (names : List (Option Text)) → List Key
  | _, [] => []
  | ordinal, some name :: names => keyOf (.named name) :: keysOf ordinal names
  | ordinal, none :: names => keyOf (.ordinal ordinal) :: keysOf (ordinal + 1) names

theorem keysOf_append (ordinal : Nat) (names names' : List (Option Text)) :
    keysOf ordinal (names ++ names') =
      keysOf ordinal names ++ keysOf (ordinal + names.count none) names' := by
  induction names generalizing ordinal with
  | nil => rfl
  | cons name names ih =>
    cases name with
    | some name => simp [keysOf, ih]
    | none => simp [keysOf, ih, Nat.add_assoc, Nat.add_comm 1]

/-- A step of the reader over a part of a legible notation: it opens groups of these names, and the look
at the brackets lists their keys. -/
structure Scanned (spaced : Bool) (ctx : Context) (t : Text) (names : List (Option Text))
    (ctx' : Context) (rest : Text) : Prop where
  opens : Opens ctx names ctx'
  low : ctx'.flags.spaced = true → spaced = true
  legible : isLegibleFrom spaced .outside rest = true
  keys : ∀ ordinal, keysFrom ordinal false t =
    keysOf ordinal names ++ keysFrom (ordinal + names.count none) false rest

namespace Scanned

variable {ctx ctx' ctx'' : Context} {names names' : List (Option Text)} {u : Text}

theorem refl (low : ctx.flags.spaced = true → spaced = true)
    (legible : isLegibleFrom spaced .outside t = true) : Scanned spaced ctx t [] ctx t :=
  ⟨.unchanged rfl rfl, low, legible, fun _ => rfl⟩

theorem append (first : Scanned spaced ctx t names ctx' u)
    (second : Scanned spaced ctx' u names' ctx'' rest) :
    Scanned spaced ctx t (names ++ names') ctx'' rest := by
  refine ⟨first.opens.append second.opens, second.low, second.legible, fun ordinal => ?_⟩
  rw [first.keys, second.keys, keysOf_append, List.count_append, List.append_assoc, Nat.add_assoc]

theorem pass (scanned : Scanned spaced ctx t names ctx' u)
    (walks : Walks spaced .outside u .outside rest) : Scanned spaced ctx t names ctx' rest := by
  obtain ⟨legible, same⟩ := passes_of_walks walks scanned.legible
  exact ⟨scanned.opens, scanned.low, legible, fun ordinal => by rw [scanned.keys]; exact congrArg _ (same _)⟩

/-- The context changes in what does not matter to names. -/
theorem become (scanned : Scanned spaced ctx t names ctx' u) (groups : ctx''.groups = ctx'.groups)
    (kept : ctx''.names = ctx'.names) (low : ctx''.flags.spaced = true → spaced = true) :
    Scanned spaced ctx t names ctx'' u :=
  ⟨⟨groups.trans scanned.opens.groups, kept.trans scanned.opens.names⟩, low, scanned.legible,
    scanned.keys⟩

end Scanned

/-- No comment is left where blanks were skipped. -/
theorem ne_comment_of_skipBlank {s : Bool} {blank : Blank} (skipped : skipBlank s blank t = some rest)
    (u : Text) : rest ≠ '(' :: '?' :: '#' :: u := by
  fun_induction skipBlank s blank t with
  | case1 t ih | case2 c t _ _ ih | case3 c t _ _ _ ih | case5 t ih | case6 _ t ih | case7 c t _ _ ih
  | case8 t ih | case9 c t _ ih => exact ih skipped
  | case4 c t notComment =>
    obtain rfl := Option.some.inj skipped
    rintro ⟨⟩
    exact notComment u rfl rfl
  | case10 => cases skipped
  | case11 | case12 =>
    obtain rfl := Option.some.inj skipped
    simp

theorem keysFrom_group (ordinal : Nat) (inner : Text) :
    keysFrom ordinal false ('(' :: inner) =
      match groupName? inner with
      | some name => keyOf (.named name) :: keysFrom ordinal false inner
      | none =>
        if inner.head? = some '?' then keysFrom ordinal false inner
        else keyOf (.ordinal ordinal) :: keysFrom (ordinal + 1) false inner := rfl

theorem readGroupHead_unmarked {ctx : Context} (unmarked : t.head? ≠ some '?') :
    readGroupHead ctx t = some (.capture none, t) := by
  unfold readGroupHead
  split <;> simp_all

/-- The bracket of a group, and what tells its kind. -/
theorem scanned_head {ctx : Context} {head : GroupHead}
    (low : ctx.flags.spaced = true → spaced = true)
    (legible : isLegibleFrom spaced .outside ('(' :: inner) = true)
    (notComment : ∀ u, inner ≠ '?' :: '#' :: u)
    (opened : (skip ctx.flags inner).bind (readGroupHead ctx) = some (head, held)) :
    head.low spaced ∧ isLegibleFrom spaced .outside held = true ∧
      ∀ ordinal, keysFrom ordinal false ('(' :: inner) =
        keysOf ordinal head.names ++ keysFrom (ordinal + head.names.count none) false held := by
  have inside : Spot.outside.next '(' inner = .outside := by
    have other : inner.take 2 ≠ ['?', '#'] := fun same =>
      notComment (inner.drop 2) ((List.take_append_drop 2 inner).symm.trans (by rw [same]; rfl))
    simp [Spot.next, other]
  rw [isLegibleFrom_cons (by simp), inside, Bool.and_eq_true] at legible
  obtain ⟨plainly, legible⟩ := legible
  obtain ⟨plain, flagged⟩ := Bool.and_eq_true_iff.1 plainly
  obtain ⟨-, shows⟩ := Bool.and_eq_true_iff.1 plain
  obtain ⟨inner', skipped, read⟩ := Option.bind_eq_some_iff.1 opened
  by_cases marked : inner.head? = some '?'
  · obtain ⟨t, rfl⟩ : ∃ t, inner = '?' :: t := List.head?_eq_some_iff.1 marked
    obtain rfl : '?' :: t = inner' := by
      simpa [skip, skipBlank, isBlank] using skipped
    have unspaced : spaced = true ∨ turnsSpaced ('?' :: t) = false := by
      simpa using flagged
    obtain ⟨walks, kept⟩ := walks_readGroupHead low unspaced read
    obtain ⟨legible', same⟩ := passes_of_walks walks legible
    refine ⟨kept, legible', fun ordinal => ?_⟩
    have later : keysFrom ordinal false ('?' :: t) = keysFrom ordinal false held := same ordinal
    rw [names_of_readGroupHead read, keysFrom_group]
    cases groupName? ('?' :: t) with
    | none => exact later
    | some name => exact congrArg (_ :: ·) later
  · -- No mark is hidden behind a comment, so the group has no name.
    have unmarked : inner'.head? ≠ some '?' := by
      have hidden := (Bool.or_eq_true_iff.1 shows).resolve_left (by simpa using marked)
      have listed : ctx.flags.spaced ∈ [false, spaced] := by
        cases on : ctx.flags.spaced with
        | false => exact List.mem_cons_self
        | true => simp [low on]
      have all := List.all_eq_true.1 hidden _ listed
      rw [show skipBlank ctx.flags.spaced .outside inner = some inner' from skipped] at all
      simpa using all
    have unnamed : groupName? inner = none := by
      refine groupName?_eq_none ?_ ?_ <;>
      · rintro u rfl
        exact marked rfl
    rw [readGroupHead_unmarked unmarked] at read
    cases read
    obtain ⟨legible', same⟩ := passes_of_walks (walks_skip low skipped) legible
    refine ⟨trivial, legible', fun ordinal => ?_⟩
    rw [keysFrom_group, unnamed]
    dsimp only
    rw [if_neg marked]
    exact congrArg (_ :: ·) (same _)

/-- An atom opens no group, gives no name and sets no flag. -/
theorem readAtom_context {ctx ctx' : Context} {e : Expr} (read : readAtom ctx t = some (e, ctx', rest)) :
    ctx'.groups = ctx.groups ∧ ctx'.names = ctx.names ∧ ctx'.flags = ctx.flags := by
  unfold readAtom at read
  split at read
  case h_4 =>
    obtain ⟨found, -, same⟩ := Option.map_eq_some_iff.1 read
    cases same
    exact ⟨rfl, rfl, rfl⟩
  case h_5 => split at read <;> cases read <;> exact ⟨rfl, rfl, rfl⟩
  case h_7 => cases read
  all_goals
    cases read
    exact ⟨rfl, rfl, rfl⟩

theorem opens_enter (ctx : Context) (head : GroupHead) : Opens ctx head.names (enter ctx head) := by
  cases head with
  | capture name => cases name <;> exact ⟨rfl, rfl⟩
  | _ => exact ⟨rfl, rfl⟩

theorem low_enter {ctx : Context} {head : GroupHead} (low : ctx.flags.spaced = true → spaced = true)
    (kept : head.low spaced) : (enter ctx head).flags.spaced = true → spaced = true := by
  cases head with
  | capture name => cases name <;> exact low
  | look | atomic | setting | reference => exact low
  | _ => exact kept

theorem low_leave {ctx inside : Context} (head : GroupHead)
    (low : ctx.flags.spaced = true → spaced = true)
    (low' : inside.flags.spaced = true → spaced = true) :
    (leave ctx inside head).flags.spaced = true → spaced = true := by
  cases head with
  | capture | look | atomic | setting | reference => exact low'
  | _ => exact low

theorem leave_names (ctx inside : Context) (head : GroupHead) :
    (leave ctx inside head).names = inside.names := by
  cases head <;> rfl

/-- The step over what is skipped, a bracket and what tells its kind. -/
theorem scanned_opening {ctx ctx' : Context} {head : GroupHead}
    (low : ctx.flags.spaced = true → spaced = true)
    (legible : isLegibleFrom spaced .outside t = true)
    (skipped : skip ctx.flags t = some ('(' :: inner))
    (opened : (skip ctx.flags inner).bind (readGroupHead ctx) = some (head, held))
    (opens : Opens ctx head.names ctx')
    (low' : head.low spaced → ctx'.flags.spaced = true → spaced = true) :
    Scanned spaced ctx t head.names ctx' held := by
  have bracket := (Scanned.refl low legible).pass (walks_skip low skipped)
  have notComment : ∀ u, inner ≠ '?' :: '#' :: u := by
    rintro u rfl
    exact ne_comment_of_skipBlank skipped u rfl
  obtain ⟨kept, legible', keys⟩ := scanned_head low bracket.legible notComment opened
  exact bracket.append ⟨opens, low' kept, legible', keys⟩

/-- What is read of a legible notation is scanned: the look at the brackets and the reader agree on the
groups. -/
theorem exists_scanned_of_body {ctx ctx' : Context} {depth : Nat} {parts earlier : List Expr} {e : Expr}
    (body : Body ctx depth parts earlier t e ctx' rest)
    (low : ctx.flags.spaced = true → spaced = true)
    (legible : isLegibleFrom spaced .outside t = true) :
    ∃ names, Scanned spaced ctx t names ctx' rest := by
  induction body with
  | finish skipped => exact ⟨[], (Scanned.refl low legible).pass (walks_skip low skipped)⟩
  | @bar ctx _ _ _ _ t t' _ _ skipped _ ih =>
    have bar : Scanned spaced ctx t [] ctx t' :=
      ((Scanned.refl low legible).pass (walks_skip low skipped)).pass (.inert rfl _)
    obtain ⟨names, others⟩ := ih low bar.legible
    exact ⟨names, bar.append others⟩
  | @setting ctx _ _ _ _ t _ behind _ _ _ flags skipped _ opened counted _ ih =>
    have opening : Scanned spaced ctx t [] { ctx with flags } behind :=
      scanned_opening low legible skipped opened (.unchanged rfl rfl) id
    have next := opening.pass (walks_readRepetition opening.low counted)
    obtain ⟨names, behind⟩ := ih next.low next.legible
    exact ⟨names, next.append behind⟩
  | reference skipped _ opened counted _ _ ih =>
    have opening := scanned_opening low legible skipped opened (.unchanged rfl rfl) (fun _ => low)
    have next := opening.pass (walks_readRepetition low counted)
    obtain ⟨names, behind⟩ := ih low next.legible
    exact ⟨names, next.append behind⟩
  | @group ctx inside _ _ _ _ _ _ _ _ _ _ _ _ _ head _ skipped _ opened _ _ counted _ _ within outer =>
    have opening := scanned_opening low legible skipped opened (opens_enter ctx head) (low_enter low)
    obtain ⟨names, held⟩ := within opening.low opening.legible
    -- Behind the closing bracket the flags are those before the group, or those that were set in it.
    have low' := low_leave head low held.low
    have closed := (held.pass (.ordinary (by simp) (by simp) (by simp) _)).become
      (leave_groups ctx inside head) (leave_names ctx inside head) low'
    have next := (opening.append closed).pass (walks_readRepetition low' counted)
    obtain ⟨names', behind⟩ := outer low' next.legible
    exact ⟨_, next.append behind⟩
  | atom skipped opens read counted _ _ ih =>
    obtain ⟨groups, names, flags⟩ := readAtom_context read
    have low' := low
    rw [← flags] at low'
    have passed := (walks_skip low skipped).trans (walks_readAtom opens read)
    have atom := ((Scanned.refl low legible).pass passed).become groups names low'
    have next := atom.pass (walks_readRepetition low' counted)
    obtain ⟨names', behind⟩ := ih low' next.legible
    exact ⟨names', next.append behind⟩

theorem getElem?_keysOf (ordinal : Nat) (names : List (Option Text)) (i : Nat) :
    (keysOf ordinal names)[i]? =
      names[i]?.map fun name => keyOf (.ofGroup (ordinal + (names.take i).count none) name) := by
  induction names generalizing ordinal i with
  | nil => rfl
  | cons name names ih =>
    cases i with
    | zero => cases name <;> rfl
    | succ i =>
      cases name with
      | some name => simp [keysOf, ih]
      | none => simp [keysOf, ih, Nat.add_assoc, Nat.add_comm 1]

/-- The flag for case in front is no group and changes nothing behind it. -/
theorem passes_withCase (o : Options) (legible : isLegibleFrom spaced .outside t = true) :
    isLegibleFrom spaced .outside (o.withCase t) = true ∧
      ∀ ordinal, keysFrom ordinal false (o.withCase t) = keysFrom ordinal false t := by
  unfold Options.withCase
  split
  · exact ⟨legible, fun _ => rfl⟩
  · have flag : isLegibleFrom spaced .outside ("(?i)".toList ++ t) = true := by
      have shape : "(?i)".toList ++ t = '(' :: '?' :: 'i' :: ')' :: t := rfl
      rw [shape]
      simp [isLegibleFrom_cons, allows, opensPlainly, isConditional, Spot.next, turnsSpaced, isAsciiLetter,
        legible]
    exact ⟨flag, fun _ => rfl⟩

/-- A matcher of a legible expression has a key for each group of the expression that is compiled, in the
order of the groups. -/
theorem keys_ofExpression {o : Options} {source : Text} {m : Matcher}
    (compiled : ofExpression o source = .ok m) (legible : isLegible source = true) :
    ∃ e ctx, readWhole? (o.withCase source) = some (e, ctx) ∧
      Program.ofNotated? ⟨e, ctx.groups, ctx.referred⟩ = some m.program ∧
      e.groups = List.range' 1 ctx.groups ∧ m.keys = e.groups.map fun n => keyOf (ctx.groupName n) := by
  simp only [ofExpression, ofSource, bind_eq_ok_iff] at compiled
  obtain ⟨p, program, same⟩ := compiled
  obtain rfl := Except.ok.inj same
  obtain ⟨n, read, program⟩ := Program.exists_of_ofSource program
  rw [read?_eq_map, Option.map_eq_some_iff] at read
  obtain ⟨⟨e, ctx⟩, read, rfl⟩ := read
  have groups := groups_of_readWhole? read
  obtain ⟨spaced, -, from'⟩ := List.any_eq_true.1 legible
  obtain ⟨legible', same⟩ := passes_withCase o from'
  obtain ⟨names, scanned⟩ := exists_scanned_of_body (body_of_readWhole? read) (by simp) legible'
  refine ⟨e, ctx, read, program, groups, List.ext_getElem? fun i => ?_⟩
  have keys : keysFrom 0 false source = keysOf 0 names := by
    rw [← same, scanned.keys]
    exact List.append_nil _
  have count : ctx.groups = names.length := by simpa using scanned.opens.groups
  rw [keys, getElem?_keysOf, groups, count, List.getElem?_map]
  cases named : names[i]? with
  | none =>
    have beyond : names.length ≤ i := List.getElem?_eq_none_iff.1 named
    rw [List.getElem?_eq_none (by simpa using beyond)]
    rfl
  | some name =>
    have bound : i < names.length := (List.getElem?_eq_some_iff.1 named).1
    rw [List.getElem?_range' bound, Option.map_some, Option.map_some, Nat.one_mul, Nat.add_comm 1 i,
      scanned.opens.groupName rfl rfl named, Nat.zero_add]

theorem keys_ofExpression_kind :
    ∃ m, ofExpression {} "^/(?P<kind>post|page)[(]((?#year)\\d+)(?:/)?$".toList = .ok m ∧
      m.keys = [keyOf (.named "kind".toList), keyOf (.ordinal 0)] ∧
      ∃ e ctx, readWhole? (Options.withCase {}
          "^/(?P<kind>post|page)[(]((?#year)\\d+)(?:/)?$".toList) = some (e, ctx) ∧
        Program.ofNotated? ⟨e, ctx.groups, ctx.referred⟩ = some m.program ∧
        e.groups = List.range' 1 ctx.groups ∧
        m.keys = e.groups.map fun n => keyOf (ctx.groupName n) := by
  have evaluated : (ofExpression {} "^/(?P<kind>post|page)[(]((?#year)\\d+)(?:/)?$".toList).toOption.map
      (·.keys) = some [keyOf (.named "kind".toList), keyOf (.ordinal 0)] := rfl
  obtain ⟨m, found, keys⟩ := Option.map_eq_some_iff.1 evaluated
  have compiled := eq_ok_of_toOption found
  exact ⟨m, compiled, keys, keys_ofExpression compiled rfl⟩

/-- A set that starts with a bracket is not over at this bracket. There is one group, and it has a name,
but what it captures goes to a key without a name. -/
theorem exists_ofExpression_of_bracket : ∃ m e ctx,
    ofExpression {} "[](]x(?<id>\\d+)".toList = .ok m ∧ readWhole? m.source = some (e, ctx) ∧
      e.groups = [1] ∧ ctx.nameOf? 1 = some "id".toList ∧
      m.keys = [keyOf (.ordinal 0), keyOf (.named "id".toList)] ∧
      m.match? "]x42".toList = some ⟨"]x42".toList, 0, ⟨[(.ordinal 0, .single "42".toList)]⟩⟩ := by
  have evaluated : (ofExpression {} "[](]x(?<id>\\d+)".toList).toOption.map (fun m =>
      ((readWhole? m.source).map fun found => (found.1.groups, found.2.nameOf? 1), m.keys,
        m.match? "]x42".toList)) =
      some (some ([1], some "id".toList), [keyOf (.ordinal 0), keyOf (.named "id".toList)],
        some ⟨"]x42".toList, 0, ⟨[(.ordinal 0, .single "42".toList)]⟩⟩) :=
    rfl
  obtain ⟨m, found, same⟩ := Option.map_eq_some_iff.1 evaluated
  obtain ⟨groups, keys, answer⟩ : _ ∧ _ ∧ _ := by simpa only [Prod.mk.injEq] using same
  obtain ⟨⟨e, ctx⟩, read, same'⟩ := Option.map_eq_some_iff.1 groups
  obtain ⟨numbers, name⟩ : _ ∧ _ := by simpa only [Prod.mk.injEq] using same'
  exact ⟨m, e, ctx, eq_ok_of_toOption found, read, numbers, name, keys, answer⟩

end Matcher

end RoutePattern
