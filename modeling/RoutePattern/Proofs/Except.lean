import Mathlib.Data.List.Forall2

/-! # Steps that may fail -/

namespace RoutePattern

variable {ε α β : Type}

theorem bind_eq_ok_iff {x : Except ε α} {f : α → Except ε β} {b : β} :
    (x >>= f) = .ok b ↔ ∃ a, x = .ok a ∧ f a = .ok b := by
  cases x with
  | error e => simp [bind, Except.bind]
  | ok a => simp [bind, Except.bind]

theorem bind_ok_eq_ok_iff {x : Except ε α} {f : α → β} {b : β} :
    (x >>= fun a => (.ok (f a) : Except ε β)) = .ok b ↔ ∃ a, x = .ok a ∧ f a = b := by
  simp only [bind_eq_ok_iff, Except.ok.injEq]

theorem bind_ok_eq_map (x : Except ε α) (f : α → β) :
    (x >>= fun a => (.ok (f a) : Except ε β)) = x.map f := by
  cases x <;> rfl

theorem map_eq_ok_iff {x : Except ε α} {f : α → β} {b : β} :
    x.map f = .ok b ↔ ∃ a, x = .ok a ∧ f a = b := by
  cases x <;> simp [Except.map]

theorem map_eq_error_iff {x : Except ε α} {f : α → β} {e : ε} : x.map f = .error e ↔ x = .error e := by
  cases x <;> simp [Except.map]

theorem except_map_map {γ : Type} (x : Except ε α) (f : α → β) (g : β → γ) :
    (x.map f).map g = x.map (g ∘ f) := by
  cases x <;> rfl

theorem bind_ok_eq_error_iff {x : Except ε α} {f : α → β} {e : ε} :
    (x >>= fun a => (.ok (f a) : Except ε β)) = .error e ↔ x = .error e := by
  cases x with
  | error e' => simp [bind, Except.bind]
  | ok a => simp [bind, Except.bind]

theorem eq_ok_of_toOption {x : Except ε α} {a : α} (some : x.toOption = some a) : x = .ok a := by
  cases x with
  | error e => cases some
  | ok b =>
    obtain rfl := Option.some.inj some
    rfl

theorem exists_related {R : α → β → Prop} {as : List α} {bs : List β}
    (each : List.Forall₂ R as bs) {a : α} (member : a ∈ as) : ∃ b ∈ bs, R a b := by
  induction each with
  | nil => cases member
  | @cons a' b _ _ first _ ih =>
    cases List.mem_cons.1 member with
    | inl here => exact ⟨b, List.mem_cons_self, here ▸ first⟩
    | inr later =>
      obtain ⟨b', listed, related⟩ := ih later
      exact ⟨b', List.mem_cons_of_mem b listed, related⟩

theorem mapM_congr {f g : α → Except ε β} {as : List α} (same : ∀ a ∈ as, f a = g a) :
    as.mapM f = as.mapM g := by
  induction as with
  | nil => rfl
  | cons a as ih =>
    rw [List.forall_mem_cons] at same
    rw [List.mapM_cons, List.mapM_cons, same.1, ih same.2]

theorem mapM_eq_ok_iff {f : α → Except ε β} {as : List α} {bs : List β} :
    as.mapM f = .ok bs ↔ List.Forall₂ (fun a b => f a = .ok b) as bs := by
  induction as generalizing bs with
  | nil =>
    rw [List.forall₂_nil_left_iff, List.mapM_nil]
    constructor
    · intro same
      exact (Except.ok.inj same).symm
    · rintro rfl
      rfl
  | cons a as ih =>
    rw [List.forall₂_cons_left_iff, List.mapM_cons, bind_eq_ok_iff]
    simp only [bind_eq_ok_iff, ih]
    constructor
    · rintro ⟨b, first, bs, rest, same⟩
      exact ⟨b, bs, first, rest, (Except.ok.inj same).symm⟩
    · rintro ⟨b, bs, first, rest, rfl⟩
      exact ⟨b, first, bs, rest, rfl⟩

/-- The first step that fails decides. -/
theorem mapM_append_eq_error {f : α → Except ε β} {before after : List α} {a : α} {bs : List β} {e : ε}
    (earlier : before.mapM f = .ok bs) (here : f a = .error e) :
    (before ++ a :: after).mapM f = .error e := by
  rw [List.mapM_append, List.mapM_cons, earlier, here]
  rfl

/-- What steps give that have others before them. -/
theorem exists_of_mapM_append_eq_ok {f : α → Except ε β} {before after : List α} {a : α}
    {bs cs : List β} (earlier : before.mapM f = .ok bs) (all : (before ++ a :: after).mapM f = .ok cs) :
    ∃ c rest, f a = .ok c ∧ cs = bs ++ c :: rest := by
  rw [List.mapM_append, List.mapM_cons, earlier] at all
  obtain ⟨_, here, same⟩ := bind_ok_eq_ok_iff.1 all
  obtain ⟨c, first, here⟩ := bind_eq_ok_iff.1 here
  obtain ⟨rest, -, rfl⟩ := bind_ok_eq_ok_iff.1 here
  exact ⟨c, rest, first, same.symm⟩

theorem exists_mapM_eq_ok {f : α → Except ε β} {as : List α} (each : ∀ a ∈ as, ∃ b, f a = .ok b) :
    ∃ bs, as.mapM f = .ok bs := by
  induction as with
  | nil => exact ⟨[], rfl⟩
  | cons a as ih =>
    rw [List.forall_mem_cons] at each
    obtain ⟨b, here⟩ := each.1
    obtain ⟨bs, later⟩ := ih each.2
    exact ⟨b :: bs, mapM_eq_ok_iff.2 (.cons here (mapM_eq_ok_iff.1 later))⟩

/-- Steps fail with the first one that fails. -/
theorem mapM_eq_error_iff {f : α → Except ε β} {as : List α} {e : ε} :
    as.mapM f = .error e ↔ ∃ before a after, as = before ++ a :: after ∧
      (∀ a' ∈ before, ∃ b, f a' = .ok b) ∧ f a = .error e := by
  constructor
  · intro failed
    induction as with
    | nil => cases failed
    | cons a as ih =>
      rw [List.mapM_cons] at failed
      cases here : f a with
      | error e' =>
        rw [here] at failed
        obtain rfl := Except.error.inj failed
        exact ⟨[], a, as, rfl, by simp, here⟩
      | ok b =>
        rw [here] at failed
        obtain ⟨before, a', after, rfl, earlier, there⟩ := ih (bind_ok_eq_error_iff.1 failed)
        exact ⟨a :: before, a', after, rfl, List.forall_mem_cons.2 ⟨⟨b, here⟩, earlier⟩, there⟩
  · rintro ⟨before, a, after, rfl, earlier, here⟩
    obtain ⟨bs, passed⟩ := exists_mapM_eq_ok earlier
    exact mapM_append_eq_error passed here

theorem exists_of_mapM_eq_error {f : α → Except ε β} {as : List α} {e : ε}
    (failed : as.mapM f = .error e) : ∃ a ∈ as, f a = .error e := by
  obtain ⟨before, a, after, rfl, -, here⟩ := mapM_eq_error_iff.1 failed
  exact ⟨a, by simp, here⟩

theorem exists_mapM_eq_error_iff {f : α → Except ε β} {as : List α} :
    (∃ e, as.mapM f = .error e) ↔ ∃ a ∈ as, ∃ e, f a = .error e := by
  constructor
  · rintro ⟨e, failed⟩
    obtain ⟨a, member, here⟩ := exists_of_mapM_eq_error failed
    exact ⟨a, member, e, here⟩
  · rintro ⟨a, member, e, here⟩
    cases answer : as.mapM f with
    | error e' => exact ⟨e', rfl⟩
    | ok bs =>
      obtain ⟨b, -, passed⟩ := exists_related (mapM_eq_ok_iff.1 answer) member
      rw [here] at passed
      cases passed

/-- Two ways of doing the same steps, one of which may fail where the other does not. They come to the
same, or the first one fails where both have come without failing. -/
theorem mapM_eq_or_error {f g : α → Except ε β} {R : α → ε → Prop} {as : List α}
    (each : ∀ a ∈ as, f a = g a ∨ ∃ e, R a e ∧ f a = .error e) :
    as.mapM f = as.mapM g ∨ ∃ before a after bs e, as = before ++ a :: after ∧
      before.mapM f = .ok bs ∧ before.mapM g = .ok bs ∧ R a e ∧ as.mapM f = .error e := by
  induction as with
  | nil => exact .inl rfl
  | cons a as ih =>
    rw [List.forall_mem_cons] at each
    rcases each.1 with same | ⟨e, refused, here⟩
    · rw [List.mapM_cons, List.mapM_cons, ← same]
      cases first : f a with
      | error e => exact .inl rfl
      | ok b =>
        rcases ih each.2 with rest | ⟨before, a', after, bs, e, split, earlier, earlier', refused, failed⟩
        · exact .inl (by rw [rest])
        · refine .inr ⟨a :: before, a', after, b :: bs, e, by rw [split]; rfl, ?_, ?_, refused, ?_⟩
          · rw [List.mapM_cons, first, earlier]
            rfl
          · rw [List.mapM_cons, ← same, first, earlier']
            rfl
          · rw [failed]
            rfl
    · exact .inr ⟨[], a, as, [], e, rfl, rfl, rfl, refused, by rw [List.mapM_cons, here]; rfl⟩

end RoutePattern
