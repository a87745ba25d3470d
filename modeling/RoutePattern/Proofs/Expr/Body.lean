import RoutePattern.Proofs.Expr.Reading

/-! # Reading as a relation

`Body` is the reading of a notation without the bound on the characters to read: one rule for each
kind of step. It holds of what `readBody` reads with any bound (`body_of_readBody`) and tells what it reads
with one that is large enough (`Body.exists_bound`), so it relates a text to one result at most
(`Body.unique`).
-/

namespace RoutePattern.Expr.Reader

/-- The characters at which an atom is read. A `{` is one of them, as it stands for itself there. -/
def opensAtom : Text → Bool
  | [] | ')' :: _ | '|' :: _ | '?' :: _ | '*' :: _ | '+' :: _ | '(' :: _ => false
  | _ => true

theorem opensAtom_cons {c : Char} {t : Text} :
    opensAtom (c :: t) = true ↔ ∀ d ∈ [')', '|', '?', '*', '+', '('], c ≠ d := by
  unfold opensAtom
  split <;> simp_all

theorem closes_cons {c : Char} {t : Text} : closes (c :: t) = true ↔ c = ')' := by
  unfold closes
  split <;> simp_all

/-- In the context, the parts and the earlier alternatives that were read before it, a text is read
as an expression, which leaves a context and a rest. -/
inductive Body : Context → (depth : Nat) → (parts earlier : List Expr) → Text →
    Expr → Context → Text → Prop
  | finish {ctx : Context} {depth : Nat} {parts earlier : List Expr} {t rest : Text}
      (skipped : skip ctx.flags t = some rest) (closing : closes rest = true)
      (unmixed : mixesReferences ctx earlier = false) :
      Body ctx depth parts earlier t (alternation earlier (ofParts parts.reverse)) ctx rest
  | bar {ctx ctx' : Context} {depth : Nat} {parts earlier : List Expr} {t t' rest : Text} {e : Expr}
      (skipped : skip ctx.flags t = some ('|' :: t'))
      (others : Body ctx depth [] (ofParts parts.reverse :: earlier) t' e ctx' rest) :
      Body ctx depth parts earlier t e ctx' rest
  | setting {ctx ctx' : Context} {depth : Nat} {parts earlier : List Expr}
      {t inner behind next rest : Text} {e : Expr} {flags : Flags}
      (skipped : skip ctx.flags t = some ('(' :: inner)) (shallow : depth + 1 < nestingLimit)
      (opened : (skip ctx.flags inner).bind (readGroupHead ctx) = some (.setting flags, behind))
      (counted : readRepetition flags behind = some (none, next))
      (more : Body { ctx with flags } depth parts earlier next e ctx' rest) :
      Body ctx depth parts earlier t e ctx' rest
  | reference {ctx ctx' : Context} {depth : Nat} {parts earlier : List Expr}
      {t inner behind next rest : Text} {e e' : Expr} {n : Nat} {times : Option Repetition}
      (skipped : skip ctx.flags t = some ('(' :: inner)) (shallow : depth + 1 < nestingLimit)
      (opened : (skip ctx.flags inner).bind (readGroupHead ctx) = some (.reference n, behind))
      (counted : readRepetition ctx.flags behind = some (times, next))
      (applied : applyRepetition (backref n) times = some e')
      (more : Body ctx depth (e' :: parts) earlier next e ctx' rest) :
      Body ctx depth parts earlier t e ctx' rest
  | group {ctx inside ctx' : Context} {depth : Nat} {parts earlier : List Expr}
      {t inner held behind next rest : Text} {a e e' : Expr} {head : GroupHead}
      {times : Option Repetition}
      (skipped : skip ctx.flags t = some ('(' :: inner)) (shallow : depth + 1 < nestingLimit)
      (opened : (skip ctx.flags inner).bind (readGroupHead ctx) = some (head, held))
      (encloses : head.encloses = true)
      (body : Body (enter ctx head) (depth + 1) [] [] held a inside (')' :: behind))
      (counted : readRepetition (leave ctx inside head).flags behind = some (times, next))
      (applied : applyRepetition (wrap ctx a head) times = some e')
      (more : Body (leave ctx inside head) depth (addPart e' parts) earlier next e ctx' rest) :
      Body ctx depth parts earlier t e ctx' rest
  | atom {ctx behindAtom ctx' : Context} {depth : Nat} {parts earlier : List Expr}
      {t t' behind next rest : Text} {a e e' : Expr} {times : Option Repetition}
      (skipped : skip ctx.flags t = some t') (opens : opensAtom t' = true)
      (read : readAtom ctx t' = some (a, behindAtom, behind))
      (counted : readRepetition behindAtom.flags behind = some (times, next))
      (applied : applyRepetition a times = some e')
      (more : Body behindAtom depth (e' :: parts) earlier next e ctx' rest) :
      Body ctx depth parts earlier t e ctx' rest

variable {ctx ctx' : Context} {depth : Nat} {parts earlier : List Expr} {t rest : Text} {e : Expr}

/-- What is read with a bound is read by the rules. -/
theorem body_of_readBody {bound : Nat}
    (read : readBody bound ctx depth parts earlier t = some (e, ctx', rest)) :
    Body ctx depth parts earlier t e ctx' rest := by
  induction bound generalizing ctx ctx' depth parts earlier t rest e with
  | zero => cases read
  | succ bound ih =>
    rw [readBody] at read
    split at read
    · cases read
    · rename_i skipped
      split at read
      · split at read
        · cases read
        · rename_i unmixed
          cases read
          exact .finish skipped rfl (by simpa using unmixed)
      · split at read
        · cases read
        · rename_i unmixed
          cases read
          exact .finish skipped rfl (by simpa using unmixed)
      · exact .bar skipped (ih read)
      · cases read
      · cases read
      · cases read
      · rename_i inner
        split at read
        · cases read
        · rename_i shallow
          have shallow' : depth + 1 < nestingLimit := Nat.lt_of_not_le shallow
          split at read
          · cases read
          · rename_i opened
            split at read
            · rename_i counted
              exact .setting skipped shallow' opened counted (ih read)
            · cases read
          · rename_i opened
            split at read
            · rename_i counted
              split at read
              · rename_i applied
                exact .reference skipped shallow' opened counted applied (ih read)
              · cases read
            · cases read
          · rename_i head held plainHead plainHead' opened
            have encloses : head.encloses = true := by
              cases head with
              | setting flags => exact absurd rfl (plainHead flags)
              | reference n => exact absurd rfl (plainHead' n)
              | _ => rfl
            split at read
            · rename_i body
              dsimp only at read
              split at read
              · rename_i counted
                split at read
                · rename_i applied
                  exact .group skipped shallow' opened encloses (ih body) counted applied (ih read)
                · cases read
              · cases read
            · cases read
      · rename_i t' _ notEnd notClosing notBar notOptional notMany notSome notGroup
        have opens : opensAtom t' = true := by
          unfold opensAtom
          split <;> simp_all
        split at read
        · cases read
        · rename_i atom
          split at read
          · rename_i counted
            split at read
            · rename_i applied
              exact .atom skipped opens atom counted applied (ih read)
            · cases read
          · cases read

/-- What is read by the rules is read with any bound from some bound on. -/
theorem Body.exists_bound (body : Body ctx depth parts earlier t e ctx' rest) :
    ∃ least, ∀ bound, least ≤ bound →
      readBody bound ctx depth parts earlier t = some (e, ctx', rest) := by
  induction body with
  | @finish ctx depth parts earlier t rest skipped closing unmixed =>
    refine ⟨1, fun bound enough => ?_⟩
    obtain ⟨bound, rfl⟩ := Nat.exists_eq_add_of_le' enough
    rw [readBody, skipped]
    cases rest with
    | nil => simp [unmixed]
    | cons c rest =>
      obtain rfl : c = ')' := by
        unfold closes at closing
        split at closing <;> simp_all
      simp [unmixed]
  | bar skipped _ ih =>
    obtain ⟨least, read⟩ := ih
    refine ⟨least + 1, fun bound enough => ?_⟩
    obtain ⟨bound, rfl⟩ := Nat.exists_eq_add_of_le' (Nat.le_trans (Nat.le_add_left 1 least) enough)
    rw [readBody, skipped]
    exact read bound (Nat.le_of_succ_le_succ enough)
  | setting skipped shallow opened counted _ ih =>
    obtain ⟨least, read⟩ := ih
    refine ⟨least + 1, fun bound enough => ?_⟩
    obtain ⟨bound, rfl⟩ := Nat.exists_eq_add_of_le' (Nat.le_trans (Nat.le_add_left 1 least) enough)
    rw [readBody, skipped]
    simp only [Nat.not_le.2 shallow, if_false, opened, counted]
    exact read bound (Nat.le_of_succ_le_succ enough)
  | reference skipped shallow opened counted applied _ ih =>
    obtain ⟨least, read⟩ := ih
    refine ⟨least + 1, fun bound enough => ?_⟩
    obtain ⟨bound, rfl⟩ := Nat.exists_eq_add_of_le' (Nat.le_trans (Nat.le_add_left 1 least) enough)
    rw [readBody, skipped]
    simp only [Nat.not_le.2 shallow, if_false, opened, counted, applied]
    exact read bound (Nat.le_of_succ_le_succ enough)
  | @group _ _ _ _ _ _ _ _ _ _ _ _ _ _ _ head _ skipped shallow opened encloses _ counted applied _ inner
      outer =>
    obtain ⟨least, body⟩ := inner
    obtain ⟨least', read⟩ := outer
    refine ⟨max least least' + 1, fun bound enough => ?_⟩
    obtain ⟨bound, rfl⟩ := Nat.exists_eq_add_of_le' (Nat.le_trans (Nat.le_add_left 1 _) enough)
    have here := body bound (by omega)
    have there := read bound (by omega)
    rw [readBody, skipped]
    simp only [Nat.not_le.2 shallow, if_false, opened]
    cases head with
    | setting flags | reference n => cases encloses
    | _ => simp only [here, counted, applied, there]
  | @atom ctx _ _ depth parts earlier t t' _ _ _ _ _ _ _ skipped opens atom counted applied _ ih =>
    obtain ⟨least, read⟩ := ih
    refine ⟨least + 1, fun bound enough => ?_⟩
    obtain ⟨bound, rfl⟩ := Nat.exists_eq_add_of_le' (Nat.le_trans (Nat.le_add_left 1 least) enough)
    have there := read bound (Nat.le_of_succ_le_succ enough)
    rw [readBody, skipped]
    -- Of the branches of `readBody` only the last one is for what opens an atom.
    simp only
    split <;> simp_all [opensAtom]

/-- What is read at some depth is read in the same way where it is nested less deep. -/
theorem Body.shallower {depth' : Nat} (body : Body ctx depth parts earlier t e ctx' rest)
    (less : depth' ≤ depth) : Body ctx depth' parts earlier t e ctx' rest := by
  induction body generalizing depth' with
  | finish skipped closing unmixed => exact .finish skipped closing unmixed
  | bar skipped _ ih => exact .bar skipped (ih less)
  | setting skipped shallow opened counted _ ih =>
    exact .setting skipped (Nat.lt_of_le_of_lt (Nat.succ_le_succ less) shallow) opened counted (ih less)
  | reference skipped shallow opened counted applied _ ih =>
    exact .reference skipped (Nat.lt_of_le_of_lt (Nat.succ_le_succ less) shallow) opened counted applied
      (ih less)
  | group skipped shallow opened encloses _ counted applied _ inside behind =>
    exact .group skipped (Nat.lt_of_le_of_lt (Nat.succ_le_succ less) shallow) opened encloses
      (inside (Nat.succ_le_succ less)) counted applied (behind less)
  | atom skipped opens read counted applied _ ih =>
    exact .atom skipped opens read counted applied (ih less)

theorem Body.unique {e' : Expr} {ctx'' : Context} {rest' : Text}
    (first : Body ctx depth parts earlier t e ctx' rest)
    (second : Body ctx depth parts earlier t e' ctx'' rest') :
    e' = e ∧ ctx'' = ctx' ∧ rest' = rest := by
  obtain ⟨least, read⟩ := first.exists_bound
  obtain ⟨least', read'⟩ := second.exists_bound
  have one := read (max least least') (Nat.le_max_left _ _)
  have other := read' (max least least') (Nat.le_max_right _ _)
  rw [one, Option.some.injEq, Prod.mk.injEq, Prod.mk.injEq] at other
  exact ⟨other.1.symm, other.2.1.symm, other.2.2.symm⟩

end RoutePattern.Expr.Reader
