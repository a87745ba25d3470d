import RoutePattern.Proofs.Expr.Lookahead

/-! # Notation within other notation

What is read up to a bracket that closes nothing is read in the same way wherever it stands, as long as
it opens no group (`Body.within`).
-/

namespace RoutePattern.Expr.Reader

variable {flags : Flags} {t rest : Text}

/-! ## Escapes -/

def Escape.refers : Escape → Bool
  | .number _ | .name _ => true
  | .literal _ | .set _ | .anchor _ => false

theorem refers_of_map {α : Type} {x : Option α} {f : α → Escape} (plain : ∀ a, (f a).refers = false)
    {u : Text} {e : Escape} (made : (x.map fun a => (f a, u)) = some (e, rest)) : e.refers = false := by
  obtain ⟨a, -, same⟩ := Option.map_eq_some_iff.1 made
  obtain ⟨rfl, -⟩ := Prod.mk.inj same
  exact plain a

theorem readHex_refers {digits : Nat} {e : Escape} (read : readHex digits t = some (e, rest)) :
    e.refers = false := by
  unfold readHex at read
  dsimp only at read
  split at read
  · exact refers_of_map (fun _ => rfl) read
  · split at read
    · split at read
      · split at read
        · cases read
        · exact refers_of_map (fun _ => rfl) read
      · cases read
    · cases read

theorem readProperty_refers {kind : Char} {relaxed : Bool} {e : Escape}
    (read : readProperty kind relaxed t = some (e, rest)) : e.refers = false := by
  unfold readProperty at read
  split at read
  · split at read
    · exact refers_of_map (fun _ => rfl) read
    · cases read
  · exact refers_of_map (fun _ => rfl) read
  · cases read

/-- Only escapes outside of brackets refer to groups. -/
theorem readCommonEscape_refers {relaxed : Bool} {c : Char} {e : Escape}
    (read : readCommonEscape relaxed c t = some (e, rest)) : e.refers = false := by
  unfold readCommonEscape at read
  split at read
  case h_9 | h_10 | h_11 => exact readHex_refers read
  case h_12 | h_13 => exact readProperty_refers read
  case h_14 =>
    split at read
    · cases read
      rfl
    · split at read <;> cases read
      rfl
  all_goals
    cases read
    rfl

theorem readHex_append {digits : Nat} (several : 0 < digits) {e : Escape}
    (read : readHex digits t = some (e, rest)) (more : Text) :
    readHex digits (t ++ more) = some (e, rest ++ more) := by
  unfold readHex at read ⊢
  dsimp only at read ⊢
  split at read
  · rename_i full
    have enough : digits ≤ t.length := by
      simp only [Bool.and_eq_true, beq_iff_eq, List.length_take] at full
      omega
    rw [List.take_append_of_le_length enough, if_pos full, List.drop_append_of_le_length enough]
    obtain ⟨c, code, same⟩ := Option.map_eq_some_iff.1 read
    obtain ⟨rfl, rfl⟩ := Prod.mk.inj same
    rw [code, Option.map_some]
  · split at read
    · rename_i t' _
      -- A brace is no digit, so the digits do not become enough.
      have short : ¬((('{' :: t' ++ more).take digits).length == digits &&
          (('{' :: t' ++ more).take digits).all isHexDigit) = true := by
        obtain ⟨n, rfl⟩ := Nat.exists_eq_add_of_le' several
        have brace : isHexDigit '{' = false := rfl
        simp [brace]
      rw [if_neg short]
      split at read
      · rename_i behind
        obtain ⟨taken, left⟩ := takeWhile_append (by rw [behind]; exact List.cons_ne_nil _ _) more
        rw [behind] at left
        simp only [List.cons_append, taken, left]
        split at read
        · cases read
        · rename_i size
          rw [if_neg size]
          obtain ⟨c, code, same⟩ := Option.map_eq_some_iff.1 read
          obtain ⟨rfl, rfl⟩ := Prod.mk.inj same
          rw [code, Option.map_some]
      · cases read
    · cases read

theorem readProperty_append {kind : Char} {relaxed : Bool} {e : Escape}
    (read : readProperty kind relaxed t = some (e, rest)) (more : Text) :
    readProperty kind relaxed (t ++ more) = some (e, rest ++ more) := by
  unfold readProperty at read
  split at read
  · rename_i t'
    split at read
    · rename_i behind
      obtain ⟨taken, left⟩ := takeWhile_append (by rw [behind]; exact List.cons_ne_nil _ _) more
      rw [behind] at left
      obtain ⟨s, named, same⟩ := Option.map_eq_some_iff.1 read
      obtain ⟨rfl, rfl⟩ := Prod.mk.inj same
      simp only [readProperty, List.cons_append, taken, left, named, Option.map_some]
    · cases read
  · rename_i c t' notBrace
    obtain ⟨s, named, same⟩ := Option.map_eq_some_iff.1 read
    obtain ⟨rfl, rfl⟩ := Prod.mk.inj same
    rw [List.cons_append, readProperty, named, Option.map_some]
    exact notBrace
  · cases read

theorem readCommonEscape_append {relaxed : Bool} {c : Char} {e : Escape}
    (read : readCommonEscape relaxed c t = some (e, rest)) (more : Text) :
    readCommonEscape relaxed c (t ++ more) = some (e, rest ++ more) := by
  unfold readCommonEscape at read ⊢
  split at read
  case h_9 | h_10 | h_11 => exact readHex_append (by decide) read more
  case h_12 | h_13 => exact readProperty_append read more
  case h_14 =>
    split at read
    · cases read
      rfl
    · split at read
      · cases read
      · rename_i noLetter
        cases read
        rw [if_neg noLetter]
  all_goals
    cases read
    rfl

/-! ## Brackets -/

section Brackets

variable {ctx ctx' : Context} (same : ctx'.flags = ctx.flags)
include same

theorem readBracketEscape_append {symbol : CharSet.Bracket.Symbol}
    (read : readBracketEscape ctx t = some (symbol, rest)) (more : Text) :
    readBracketEscape ctx' (t ++ more) = some (symbol, rest ++ more) := by
  cases t with
  | nil => cases read
  | cons c t =>
    simp only [List.cons_append, readBracketEscape, same] at read ⊢
    split at read
    · cases read
    · rename_i noDigit
      rw [if_neg noDigit]
      split at read
      · rename_i plain
        cases read
        rw [if_pos plain]
      · rename_i special
        rw [if_neg special]
        cases found : readCommonEscape ctx.flags.relaxed c t with
        | none =>
          rw [found] at read
          cases read
        | some escape =>
          obtain ⟨e, behind⟩ := escape
          rw [readCommonEscape_append found more]
          rw [found] at read
          cases e <;> cases read <;> rfl

theorem readSymbols_append {bound bound' depth : Nat} {symbols : List CharSet.Bracket.Symbol}
    (read : readSymbols ctx bound depth t = some (symbols, rest)) (enough : bound ≤ bound')
    (more : Text) : readSymbols ctx' bound' depth (t ++ more) = some (symbols, rest ++ more) := by
  induction bound generalizing bound' depth t symbols with
  | zero => cases read
  | succ bound ih =>
    obtain ⟨bound', rfl⟩ := Nat.exists_eq_add_of_le' (Nat.le_trans (Nat.le_add_left 1 bound) enough)
    have enough' : bound ≤ bound' := Nat.le_of_succ_le_succ enough
    cases t with
    | nil => cases read
    | cons c t =>
      simp only [List.cons_append, readSymbols] at read ⊢
      split at read
      · rename_i escaped
        rw [if_pos escaped]
        split at read
        · rename_i found
          rw [readBracketEscape_append same found more]
          obtain ⟨⟨further, behind⟩, later, here⟩ := Option.map_eq_some_iff.1 read
          obtain ⟨rfl, rfl⟩ := Prod.mk.inj here
          simp only [ih later enough', Option.map_some]
        · cases read
      · rename_i notEscaped
        rw [if_neg notEscaped]
        split at read
        · rename_i closing
          cases read
          rw [if_pos closing]
        · rename_i notClosing
          rw [if_neg notClosing]
          obtain ⟨⟨further, behind⟩, later, here⟩ := Option.map_eq_some_iff.1 read
          obtain ⟨rfl, rfl⟩ := Prod.mk.inj here
          simp only [ih later enough', Option.map_some]

omit same in
theorem readSymbols_nonempty {bound depth : Nat} {symbols : List CharSet.Bracket.Symbol}
    (read : readSymbols ctx bound depth t = some (symbols, rest)) : t ≠ [] := by
  rintro rfl
  cases bound <;> cases read

omit same in
/-- A character that may stand first, and the text behind it. -/
theorem leading_append (c : Char) (nonempty : t ≠ []) (more : Text) :
    ((t ++ more).head? == some c) = (t.head? == some c) ∧
      (t ++ more).drop (if t.head? == some c then [c] else []).length =
        t.drop (if t.head? == some c then [c] else []).length ++ more := by
  cases t with
  | nil => exact absurd rfl nonempty
  | cons d t => exact ⟨rfl, by split <;> rfl⟩

theorem readBracket_append {s : CharSet} (read : readBracket ctx t = some (s, rest)) (more : Text) :
    readBracket ctx' (t ++ more) = some (s, rest ++ more) := by
  unfold readBracket at read ⊢
  dsimp only at read ⊢
  split at read
  · rename_i symbols behind found
    have inside := readSymbols_nonempty found
    have second : t.drop (if t.head? == some '^' then ['^'] else []).length ≠ [] := by
      intro none
      rw [none, List.drop_nil] at inside
      exact inside rfl
    have first : t ≠ [] := by
      rintro rfl
      exact second (List.drop_nil)
    obtain ⟨caret, inner⟩ := leading_append '^' first more
    obtain ⟨bracket, symbols'⟩ := leading_append ']' second more
    rw [caret, inner, bracket, symbols',
      readSymbols_append same found (by simp) more]
    simp only [same]
    obtain ⟨s', made, here⟩ := Option.map_eq_some_iff.1 read
    obtain ⟨rfl, rfl⟩ := Prod.mk.inj here
    rw [made, Option.map_some]
  · cases read

end Brackets

/-! ## Atoms -/

/-- A context in which nothing is named or referred to. -/
def bare (size : Nat) (flags : Flags) (groups : Nat) : Context := { size, flags, groups }

section Atoms

variable {size size' groups : Nat}

@[simp] theorem bare_flags : (bare size flags groups).flags = flags := rfl

@[simp] theorem bare_groups : (bare size flags groups).groups = groups := rfl

/-- Where no group has been opened there is none to refer to. -/
theorem referenceOf?_bare (name : Text) : referenceOf? (bare size flags 0) name = none := by
  simp only [referenceOf?, Option.filter_eq_none_iff, Bool.and_eq_true, decide_eq_true_eq]
  intro n _ within
  rw [bare_groups] at within
  omega

theorem readEscape_append {e : Escape} (read : readEscape (bare size flags 0) t = some (e, rest))
    (nonempty : rest ≠ []) (more : Text) :
    e.refers = false ∧
      readEscape (bare size' flags groups) (t ++ more) = some (e, rest ++ more) := by
  cases t with
  | nil => cases read
  | cons c t =>
    simp only [readEscape] at read
    split at read
    · -- A number refers to a group.
      split at read
      · split at read
        · rename_i within
          simp only [Bool.and_eq_true, decide_eq_true_eq] at within
          rw [bare_groups] at within
          omega
        · cases read
      · cases read
    · rename_i noDigit
      simp only [List.cons_append, readEscape, if_neg noDigit]
      split at read
      · simp [referenceOf?_bare] at read
      · simp [referenceOf?_bare] at read
      · cases read
      · cases read
      · rename_i a notName _ _ notBrace found
        obtain ⟨rfl, rfl⟩ := Prod.mk.inj (Option.some.inj read)
        refine ⟨rfl, ?_⟩
        obtain ⟨d, u, shape⟩ := List.exists_cons_of_ne_nil nonempty
        split
        · exact absurd rfl notName
        · exact absurd rfl notName
        · exact absurd rfl notName
        · simp_all
        · simp_all
        · simp_all
      · rename_i notName _ _ notBrace found
        refine ⟨readCommonEscape_refers read, ?_⟩
        have common := readCommonEscape_append read more
        split
        · exact absurd rfl notName
        · exact absurd rfl notName
        · exact absurd rfl notName
        · cases found
        · simp_all
        · exact common

theorem readAtom_append {ctx' : Context} {a : Expr}
    (read : readAtom (bare size flags 0) t = some (a, ctx', rest)) (nonempty : rest ≠ [])
    (more : Text) :
    ctx' = bare size flags 0 ∧
      readAtom (bare size' flags groups) (t ++ more) =
        some (a, bare size' flags groups, rest ++ more) := by
  unfold readAtom at read
  split at read
  · cases read
    exact ⟨rfl, rfl⟩
  · cases read
    exact ⟨rfl, rfl⟩
  · cases read
    exact ⟨rfl, rfl⟩
  · obtain ⟨⟨s, behind⟩, found, same⟩ := Option.map_eq_some_iff.1 read
    cases same
    have flags' : (bare size' flags groups).flags = (bare size flags 0).flags := rfl
    refine ⟨rfl, ?_⟩
    rw [List.cons_append, readAtom, readBracket_append flags' found more]
    rfl
  · -- What is escaped refers to nothing.
    rename_i t
    cases found : readEscape (bare size flags 0) t with
    | none =>
      rw [found] at read
      cases read
    | some escape =>
      obtain ⟨e, behind⟩ := escape
      rw [found] at read
      have within : behind ≠ [] → e.refers = false ∧
          readEscape (bare size' flags groups) (t ++ more) = some (e, behind ++ more) :=
        fun nonempty => readEscape_append found nonempty more
      cases e with
      | number n | name n =>
        cases read
        cases (within nonempty).1
      | literal c =>
        cases read
        refine ⟨rfl, ?_⟩
        rw [List.cons_append, readAtom, (within nonempty).2]
        rfl
      | set s | anchor a =>
        cases read
        refine ⟨rfl, ?_⟩
        rw [List.cons_append, readAtom, (within nonempty).2]
  · rename_i notAny notStart notEnd notBracket notEscape
    cases read
    refine ⟨rfl, ?_⟩
    rw [List.cons_append, readAtom]
    · rfl
    · exact notAny
    · exact notStart
    · exact notEnd
    · exact notBracket
    · exact notEscape
  · cases read

end Atoms

/-! ## Groups -/

theorem readFlags_append {bound bound' : Nat} {off : Bool} {last : Option Char} {head : GroupHead}
    (read : readFlags bound flags off last t = some (head, rest)) (enough : bound ≤ bound')
    (more : Text) : readFlags bound' flags off last (t ++ more) = some (head, rest ++ more) := by
  induction bound generalizing bound' flags off last t with
  | zero => cases read
  | succ bound ih =>
    obtain ⟨bound', rfl⟩ := Nat.exists_eq_add_of_le' (Nat.le_trans (Nat.le_add_left 1 bound) enough)
    have enough' : bound ≤ bound' := Nat.le_of_succ_le_succ enough
    rw [readFlags] at read ⊢
    cases skipped : skip flags t with
    | none =>
      rw [skipped] at read
      cases read
    | some t' =>
      rw [skipped] at read
      dsimp only at read
      cases t' with
      | nil => cases read
      | cons c u =>
        have other : c ≠ '(' := by
          rintro rfl
          simp [Flags.set?] at read
        have whole : isCut (c :: u) = false := by
          unfold isCut
          split <;> simp_all
        have length : ((c :: u ++ more).length == (t ++ more).length) =
            ((c :: u).length == t.length) := by
          rw [List.length_append, List.length_append]
          by_cases same : (c :: u).length = t.length
          · simp [same]
          · have differ : (c :: u).length + more.length ≠ t.length + more.length := by omega
            rw [beq_false_of_ne same, beq_false_of_ne differ]
        rw [skip_append skipped whole more]
        dsimp only
        rw [length]
        generalize (if ((c :: u).length == t.length) = true then last else some ' ') = last' at read ⊢
        split at read
        · cases read
        · rename_i same
          obtain ⟨rfl, rfl⟩ := List.cons.inj same
          split at read <;> rename_i ended
          · cases read
          · cases read
            exact if_neg ended
        · rename_i same
          obtain ⟨rfl, rfl⟩ := List.cons.inj same
          split at read <;> rename_i ended
          · cases read
          · cases read
            exact if_neg ended
        · rename_i same
          obtain ⟨rfl, rfl⟩ := List.cons.inj same
          split at read <;> rename_i again
          · cases read
          · exact (if_neg again).trans (ih read enough')
        · rename_i notClosing notColon notOff same
          obtain ⟨rfl, rfl⟩ := List.cons.inj same
          split at read
          · rename_i flags' set
            rw [List.cons_append]
            split
            · simp_all
            · simp_all
            · simp_all
            · simp_all
            · rename_i same'
              obtain ⟨rfl, rfl⟩ := List.cons.inj same'
              rw [set]
              exact ih read enough'
          · cases read

theorem readFlags_refers {bound : Nat} {off : Bool} {last : Option Char} {head : GroupHead}
    (read : readFlags bound flags off last t = some (head, rest)) (n : Nat) : head ≠ .reference n := by
  induction bound generalizing flags off last t with
  | zero => cases read
  | succ bound ih =>
    rw [readFlags] at read
    split at read
    · cases read
    · rename_i t' _
      dsimp only at read
      generalize (if (t'.length == t.length) = true then last else some ' ') = last' at read
      split at read
      · cases read
      · split at read <;> cases read
        simp
      · split at read <;> cases read
        simp
      · split at read
        · cases read
        · exact ih read
      · split at read
        · exact ih read
        · cases read

theorem readGroupHead_refers {size : Nat} {head : GroupHead}
    (read : readGroupHead (bare size flags 0) t = some (head, rest)) (n : Nat) :
    head ≠ .reference n := by
  rintro rfl
  unfold readGroupHead at read
  split at read
  · cases read
  · cases read
  · cases read
  · cases read
  · obtain ⟨named, -, same⟩ := Option.map_eq_some_iff.1 read
    cases same
  · obtain ⟨named, -, same⟩ := Option.map_eq_some_iff.1 read
    cases same
  · simp [referenceOf?_bare] at read
  · cases read
  · exact readFlags_refers read n rfl
  · cases read

/-- What is no mark of another kind of group is read as flags. -/
theorem readGroupHead_flags {ctx : Context} {c : Char}
    (other : ∀ d ∈ ['=', '!', '<', 'P', '>'], c ≠ d) (t : Text) :
    readGroupHead ctx ('?' :: c :: t) =
      readFlags ((c :: t).length + 1) ctx.flags false none (c :: t) := by
  simp only [List.forall_mem_cons] at other
  obtain ⟨ahead, notAhead, named, quoted, atomic, -⟩ := other
  rw [readGroupHead] <;> simp [ahead, notAhead, named, quoted, atomic]

theorem readGroupHead_append {size size' groups : Nat} {head : GroupHead}
    (read : readGroupHead (bare size flags 0) t = some (head, rest))
    (plain : ∀ name, head ≠ .capture name) (more : Text) :
    readGroupHead (bare size' flags groups) (t ++ more) = some (head, rest ++ more) := by
  unfold readGroupHead at read
  split at read
  · cases read
    rfl
  · cases read
    rfl
  · cases read
    rfl
  · cases read
    rfl
  · obtain ⟨named, -, same⟩ := Option.map_eq_some_iff.1 read
    cases same
    exact absurd rfl (plain _)
  · obtain ⟨named, -, same⟩ := Option.map_eq_some_iff.1 read
    cases same
    exact absurd rfl (plain _)
  · simp [referenceOf?_bare] at read
  · cases read
    rfl
  · rename_i t notAhead notNotAhead notBehind notNotBehind notNamed notNamed' notReference notAtomic
    cases t with
    | nil => cases read
    | cons c t =>
      have notName : c ≠ 'P' := by
        rintro rfl
        simp [readFlags, skip, skipBlank, isBlank, Flags.set?] at read
      have other : ∀ d ∈ ['=', '!', '<', 'P', '>'], c ≠ d := by
        simp only [List.forall_mem_cons]
        refine ⟨?_, ?_, ?_, notName, ?_, List.forall_mem_nil _⟩ <;> rintro rfl
        exacts [notAhead t rfl, notNotAhead t rfl, notNamed t rfl, notAtomic t rfl]
      rw [List.cons_append, List.cons_append, readGroupHead_flags other]
      exact readFlags_append read (by simp) more
  · cases read
    exact absurd rfl (plain _)

/-! ## Reading -/

/-- Groups are only opened, not taken back. -/
theorem readAtom_groups {ctx ctx' : Context} {a : Expr}
    (read : readAtom ctx t = some (a, ctx', rest)) : ctx'.groups = ctx.groups := by
  unfold readAtom at read
  split at read
  · cases read
    rfl
  · cases read
    rfl
  · cases read
    rfl
  · obtain ⟨found, -, same⟩ := Option.map_eq_some_iff.1 read
    cases same
    rfl
  · split at read <;> cases read <;> rfl
  · cases read
    rfl
  · cases read

theorem leave_groups (outer inner : Context) (head : GroupHead) :
    (leave outer inner head).groups = inner.groups := by
  cases head <;> rfl

theorem le_enter_groups (ctx : Context) (head : GroupHead) :
    ctx.groups ≤ (enter ctx head).groups := by
  cases head with
  | capture name => cases name <;> exact Nat.le_succ _
  | _ => exact Nat.le_refl _

theorem Body.groups_le {ctx ctx' : Context} {depth : Nat} {parts earlier : List Expr} {e : Expr}
    (body : Body ctx depth parts earlier t e ctx' rest) : ctx.groups ≤ ctx'.groups := by
  induction body with
  | finish => exact Nat.le_refl _
  | bar _ _ ih => exact ih
  | setting _ _ _ _ _ ih => exact ih
  | reference _ _ _ _ _ _ ih => exact ih
  | group _ _ _ _ _ _ _ _ inside behind =>
    rw [leave_groups] at behind
    exact Nat.le_trans (Nat.le_trans (le_enter_groups _ _) inside) behind
  | atom _ _ read _ _ _ ih => rwa [readAtom_groups read] at ih

theorem exists_of_closes (closing : closes rest = true) (open' : rest ≠ []) :
    ∃ u, rest = ')' :: u := by
  unfold closes at closing
  split at closing
  · exact absurd rfl open'
  · exact ⟨_, rfl⟩
  · cases closing

theorem isCut_of_head {ctx : Context} {head : GroupHead}
    (read : readGroupHead ctx t = some (head, rest)) (plain : ∀ name, head ≠ .capture name) :
    isCut t = false := by
  cases cut : isCut t with
  | false => rfl
  | true =>
    unfold isCut at cut
    split at cut
    · cases read
      exact absurd rfl (plain none)
    · cases read
      exact absurd rfl (plain none)
    · cases read
      exact absurd rfl (plain none)
    · cases cut

theorem isCut_cons {c : Char} (other : c ≠ '(') : isCut (c :: t) = false := by
  unfold isCut
  split <;> simp_all

theorem opensAtom_append (opens : opensAtom t = true) (more : Text) :
    opensAtom (t ++ more) = true ∧ isCut t = false := by
  cases t with
  | nil => cases opens
  | cons c t =>
    rw [opensAtom_cons] at opens
    exact ⟨opensAtom_cons.2 opens, isCut_cons (opens '(' (by simp))⟩

section Heads

variable {head : GroupHead} (plain : ∀ name, head ≠ .capture name) (encloses : head.encloses = true)
include plain encloses

theorem exists_enter_bare (flags : Flags) :
    ∃ flags', ∀ size groups, enter (bare size flags groups) head = bare size flags' groups := by
  cases head with
  | capture name => exact absurd rfl (plain name)
  | look d negative | atomic => exact ⟨flags, fun _ _ => rfl⟩
  | setting flags' | reference n => cases encloses
  | _ => exact ⟨_, fun _ _ => rfl⟩

theorem exists_leave_bare (flags inner : Flags) :
    ∃ flags', ∀ size groups, leave (bare size flags groups) (bare size inner groups) head =
      bare size flags' groups := by
  cases head with
  | capture name => exact absurd rfl (plain name)
  | look d negative | atomic => exact ⟨inner, fun _ _ => rfl⟩
  | setting flags' | reference n => cases encloses
  | _ => exact ⟨flags, fun _ _ => rfl⟩

theorem wrap_bare (ctx ctx' : Context) (a : Expr) : wrap ctx a head = wrap ctx' a head := by
  cases head with
  | capture name => exact absurd rfl (plain name)
  | setting flags' | reference n => cases encloses
  | _ => rfl

end Heads

/-- A group that is not a capture opens in the same way with more text behind it. -/
theorem opened_append {size size' groups : Nat} {head : GroupHead}
    (opened : (skip flags t).bind (readGroupHead (bare size flags 0)) = some (head, rest))
    (plain : ∀ name, head ≠ .capture name) (more : Text) :
    isCut ('(' :: t) = false ∧
      (skip flags (t ++ more)).bind (readGroupHead (bare size' flags groups)) =
        some (head, rest ++ more) := by
  obtain ⟨u, skipped, read⟩ := Option.bind_eq_some_iff.1 opened
  constructor
  · match t with
    | [] =>
      cases skipped
      cases read
      exact absurd rfl (plain none)
    | ['?'] =>
      obtain rfl : ['?'] = u := by simpa [skip, skipBlank, isBlank] using skipped
      simp [readGroupHead, readFlags, skip, skipBlank] at read
    | c :: d :: t =>
      unfold isCut
      split <;> simp_all
    | [c] =>
      by_cases mark : c = '?'
      · subst mark
        obtain rfl : ['?'] = u := by simpa [skip, skipBlank, isBlank] using skipped
        simp [readGroupHead, readFlags, skip, skipBlank] at read
      · unfold isCut
        split <;> simp_all
  · rw [skip_append skipped (isCut_of_head read plain) more, Option.bind_some,
      readGroupHead_append read plain more]

/-- Where no group is opened at all, none is opened by a part. -/
theorem Body.not_capture {ctx inside ctx' : Context} {depth depth' : Nat}
    {parts earlier parts' earlier' : List Expr} {t' rest' : Text} {e e' : Expr} {head : GroupHead}
    (body : Body (enter ctx head) depth parts earlier t e inside rest)
    (behind : Body (leave ctx inside head) depth' parts' earlier' t' e' ctx' rest')
    (same : ctx'.groups = ctx.groups) :
    inside.groups = ctx.groups ∧ (enter ctx head).groups = ctx.groups ∧
      ∀ name, head ≠ .capture name := by
  have entered := le_enter_groups ctx head
  have within := body.groups_le
  have outside := behind.groups_le
  rw [leave_groups] at outside
  refine ⟨by omega, by omega, ?_⟩
  rintro name rfl
  have opened : ctx.groups + 1 ≤ (enter ctx (.capture name)).groups := by
    cases name <;> exact Nat.le_refl _
  omega

/-- What is read without opening a group is read in the same way with more text behind it and behind
other groups. -/
theorem Body.within {size depth : Nat} {parts earlier : List Expr} {e : Expr} {ctx ctx' : Context}
    (body : Body ctx depth parts earlier t e ctx' rest) (start : ctx = bare size flags 0)
    (groupless : ctx'.groups = 0) (open' : rest ≠ []) :
    ∃ flags', ctx' = bare size flags' 0 ∧
      ∀ (size' groups : Nat) (more : Text),
        Body (bare size' flags groups) depth parts earlier (t ++ more) e
          (bare size' flags' groups) (rest ++ more) := by
  -- Behind counts there is more to read than what is lost.
  have alive : ∀ {ctx ctx' : Context} {depth : Nat} {parts earlier : List Expr} {u rest : Text}
      {e : Expr}, Body ctx depth parts earlier u e ctx' rest → rest ≠ [] → ¬Lost ctx.flags u :=
    fun body open' lost => open' (lost rfl body)
  induction body generalizing flags with
  | @finish ctx depth parts earlier t rest skipped closing unmixed =>
    subst start
    obtain ⟨u, rfl⟩ := exists_of_closes closing open'
    refine ⟨flags, rfl, fun size' groups more => ?_⟩
    exact .finish (skip_append skipped rfl more) rfl (by simp [mixesReferences, bare])
  | bar skipped others ih =>
    subst start
    obtain ⟨flags', rfl, within⟩ := ih rfl groupless open'
    refine ⟨flags', rfl, fun size' groups more => ?_⟩
    exact .bar (skip_append skipped (isCut_cons (by decide)) more) (within size' groups more)
  | @setting ctx _ _ _ _ _ _ _ _ _ _ fs skipped shallow opened counted behind ih =>
    subst start
    obtain ⟨flags', rfl, within⟩ := ih rfl groupless open'
    refine ⟨flags', rfl, fun size' groups more => ?_⟩
    obtain ⟨whole, opened'⟩ := opened_append opened (by simp) more
    exact .setting (skip_append skipped whole more) shallow opened'
      (readRepetition_append counted (alive behind open') more) (within size' groups more)
  | reference skipped shallow opened counted applied behind ih =>
    subst start
    obtain ⟨w, skipped', head⟩ := Option.bind_eq_some_iff.1 opened
    exact absurd rfl (readGroupHead_refers head _)
  | group skipped shallow opened encloses body counted applied behind inside outside =>
    subst start
    obtain ⟨within, -, plain⟩ := body.not_capture behind groupless
    obtain ⟨flagsIn, entered⟩ := exists_enter_bare plain encloses flags
    obtain ⟨flagsOut, rfl, insideMore⟩ := inside (entered size 0) within (List.cons_ne_nil _ _)
    obtain ⟨flagsBehind, left⟩ := exists_leave_bare plain encloses flags flagsOut
    obtain ⟨flags', rfl, outsideMore⟩ := outside (left size 0) groupless open'
    refine ⟨flags', rfl, fun size' groups more => ?_⟩
    obtain ⟨whole, opened'⟩ := opened_append opened plain more
    have body' := insideMore size' groups more
    have counted' := readRepetition_append counted (alive behind open') more
    have behind' := outsideMore size' groups more
    rw [← entered size' groups] at body'
    rw [show (leave (bare size flags 0) (bare size flagsOut 0) _).flags =
      (leave (bare size' flags groups) (bare size' flagsOut groups) _).flags by
        rw [left, left, bare_flags, bare_flags]] at counted'
    rw [← left size' groups] at behind'
    rw [wrap_bare plain encloses _ (bare size' flags groups)] at applied
    exact .group (skip_append skipped whole more) shallow opened' encloses body' counted' applied
      behind'
  | @atom _ behindAtom ctx' _ _ _ _ t' behind next _ _ _ _ times skipped opens read counted applied more' ih =>
    subst start
    have aliveNext := alive more' open'
    have nonempty : behind ≠ [] := by
      rintro rfl
      obtain ⟨-, rfl⟩ : times = none ∧ next = [] := by
        rw [readRepetition_eq] at counted
        simpa [skip, skipBlank, readRange, eq_comm] using counted
      exact aliveNext (lost_nil _)
    obtain ⟨rfl, -⟩ : _ ∧ readAtom (bare 0 flags 0) _ = _ := readAtom_append read nonempty []
    obtain ⟨flags', rfl, within⟩ := ih rfl groupless open'
    refine ⟨flags', rfl, fun size' groups more => ?_⟩
    obtain ⟨open'', whole⟩ := opensAtom_append opens more
    exact .atom (skip_append skipped whole more) open'' (readAtom_append read nonempty more).2
      (readRepetition_append counted aliveNext more) applied (within size' groups more)

end RoutePattern.Expr.Reader
