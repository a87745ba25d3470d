import RoutePattern.Proofs.Pattern.Naming

/-! # Parameters in the order of insertion

Parameters are a map in the order in which the names came. One insertion keeps them in line with the
steps so far (`Records.insert`), so whatever was inserted, each name has one entry, at the place where it
came first and with the value that came last (`records_ofList`). A text finds the first entry whose name
it refers to, and the text of a stored name finds one that is not behind it (`ofList_ordered`).
-/

namespace RoutePattern

/-- The name is the text itself, or the number that the text denotes. -/
def Name.GoesBy (key : Text) : Name → Prop
  | named t => t = key
  | ordinal n => Text.Decimal.Denotes key n

theorem Name.answersTo_iff_goesBy {name : Name} {key : Text} :
    name.answersTo key = true ↔ name.GoesBy key := by
  cases name with
  | named t => rw [answersTo, beq_iff_eq, GoesBy]
  | ordinal n => rw [answersTo, beq_iff_eq, Text.Decimal.read?_eq_some_iff, GoesBy]

theorem Name.answersTo_text {name : Name} (fits : name.fits = true) :
    name.answersTo name.text = true := (answersTo_text_iff fits).2 (.inl rfl)

namespace Params

variable {steps : List (Name × Value)} {p : Params} {name n : Name} {value : Value} {key : Text}

/-! ## Steps -/

/-- The value is the one that the steps insert last under the name. -/
def InsertsLast (steps : List (Name × Value)) (name : Name) (value : Value) : Prop :=
  ∃ before after, steps = before ++ (name, value) :: after ∧ name ∉ after.map (·.1)

theorem forall_bne_iff {es : List (Name × Value)} :
    (∀ e ∈ es, (name != e.1) = true) ↔ name ∉ es.map (·.1) := by
  simp only [bne_iff_ne, ne_eq, List.mem_map, not_exists, not_and, @eq_comm _ name]

theorem insertsLast_iff : InsertsLast steps name value ↔ steps.reverse.lookup name = some value := by
  rw [List.lookup_eq_some_iff]
  constructor
  · rintro ⟨before, after, rfl, last⟩
    exact ⟨after.reverse, before.reverse, by simp, forall_bne_iff.2 (by simpa using last)⟩
  · rintro ⟨after, before, split, last⟩
    refine ⟨before.reverse, after.reverse, ?_, forall_bne_iff.1 (by simpa using last)⟩
    rw [← steps.reverse_reverse, split]
    simp

/-- The parameters are what the steps leave: the names in the order in which they first came, each with
the value that came last. -/
structure Records (steps : List (Name × Value)) (p : Params) : Prop where
  names : ∀ name, name ∈ p.entries.map (·.1) ↔ name ∈ steps.map (·.1)
  order : (p.entries.map (·.1)).Pairwise fun n n' =>
    (steps.map (·.1)).idxOf n < (steps.map (·.1)).idxOf n'
  latest : ∀ name value, p.getNamed? name = some value ↔ InsertsLast steps name value

theorem records_empty : empty.Records [] := by
  refine ⟨fun name => Iff.rfl, .nil, fun name value => ?_⟩
  rw [insertsLast_iff]
  rfl

/-- One more insertion. -/
theorem Records.insert (records : p.Records steps) (name : Name) (value : Value) :
    (p.insert name value).Records (steps ++ [(name, value)]) where
  names := fun n => by
    rw [Params.insert, names_put, List.map_append, List.mem_append, ← records.names]
    split
    · rename_i old
      simp only [List.map_cons, List.map_nil, List.mem_singleton]
      exact ⟨.inl, fun here => here.elim id fun same => same ▸ old⟩
    · exact List.mem_append
  order := by
    -- Names that were there keep the place where they first came.
    have kept : ∀ n ∈ p.entries.map (·.1),
        ((steps ++ [(name, value)]).map (·.1)).idxOf n = (steps.map (·.1)).idxOf n := by
      intro n member
      rw [List.map_append, List.idxOf_append_of_mem ((records.names n).1 member)]
    have old : (p.entries.map (·.1)).Pairwise fun n n' =>
        ((steps ++ [(name, value)]).map (·.1)).idxOf n <
          ((steps ++ [(name, value)]).map (·.1)).idxOf n' := by
      refine records.order.imp_of_mem fun here there before => ?_
      rwa [kept _ here, kept _ there]
    rw [Params.insert, names_put]
    split
    · exact old
    · rename_i new
      refine List.pairwise_append.2 ⟨old, List.pairwise_singleton _ _, fun n member n' last => ?_⟩
      obtain rfl := List.mem_singleton.1 last
      have unseen : n' ∉ steps.map (·.1) := fun seen => new ((records.names n').2 seen)
      have inside := List.idxOf_lt_length_iff.2 ((records.names n).1 member)
      rw [kept n member, List.map_append, List.idxOf_append_of_notMem unseen]
      exact inside.trans_le (Nat.le_add_right _ _)
  latest := fun n v => by
    rw [insertsLast_iff, List.reverse_append, List.reverse_singleton, List.singleton_append,
      getNamed?, Params.insert]
    by_cases same : n = name
    · rw [same, lookup_put_same, List.lookup_cons_self]
    · rw [lookup_put_other same, List.lookup_cons, beq_false_of_ne same, ← insertsLast_iff,
        ← records.latest, getNamed?]

/-- Parameters that were inserted one after the other. -/
theorem records_ofList (steps : List (Name × Value)) : (ofList steps).Records steps := by
  induction steps using List.reverseRecOn with
  | nil => exact records_empty
  | append_singleton steps e records =>
    rw [ofList, List.foldl_concat]
    exact records.insert e.1 e.2

/-! ## Entries -/

theorem Records.nodup (records : p.Records steps) : (p.entries.map (·.1)).Nodup :=
  records.order.imp fun before same => absurd (same ▸ before) (Nat.lt_irrefl _)

/-- A name that stands once finds the entry that it stands in. -/
theorem mem_entries_iff (nodup : (p.entries.map (·.1)).Nodup) :
    (name, value) ∈ p.entries ↔ p.getNamed? name = some value := by
  obtain ⟨entries⟩ := p
  induction entries with
  | nil => simp [getNamed?]
  | cons e entries ih =>
    obtain ⟨n, v⟩ := e
    rw [List.map_cons, List.nodup_cons] at nodup
    by_cases same : n = name
    · subst same
      have once : (n, value) ∉ entries := fun later =>
        nodup.1 (List.mem_map.2 ⟨_, later, rfl⟩)
      rw [getNamed?_own, List.mem_cons, or_iff_left once, Prod.mk.injEq, Option.some.injEq]
      exact ⟨fun here => here.2.symm, fun here => ⟨rfl, here.symm⟩⟩
    · rw [getNamed?_other same, ← ih nodup.2, List.mem_cons, or_iff_right]
      exact fun here => same (congrArg Prod.fst here).symm

theorem getNamed?_eq_none_iff : p.getNamed? name = none ↔ name ∉ p.entries.map (·.1) := by
  rw [getNamed?, List.lookup_eq_none_iff, forall_bne_iff]

/-! ## What a text finds -/

/-- The entry is the first one whose name the text refers to. -/
def FirstFor (p : Params) (key : Text) (name : Name) (value : Value) : Prop :=
  ∃ before after, p.entries = before ++ (name, value) :: after ∧ name.GoesBy key ∧
    ∀ e ∈ before, ¬e.1.GoesBy key

theorem get?_eq_some_iff : p.get? key = some value ↔ ∃ name, p.FirstFor key name value := by
  simp only [get?, Option.map_eq_some_iff, List.find?_eq_some_iff_append, Bool.not_eq_true',
    ← Bool.not_eq_true, Name.answersTo_iff_goesBy]
  constructor
  · rintro ⟨⟨name, v⟩, ⟨goes, before, after, split, others⟩, rfl⟩
    exact ⟨name, before, after, split, goes, others⟩
  · rintro ⟨name, before, after, split, goes, others⟩
    exact ⟨(name, value), ⟨goes, before, after, split, others⟩, rfl⟩

theorem get?_eq_none_iff : p.get? key = none ↔ ∀ e ∈ p.entries, ¬e.1.GoesBy key := by
  simp only [get?, Option.map_eq_none_iff, List.find?_eq_none, Name.answersTo_iff_goesBy]

/-- The text of a stored name finds its entry, unless it finds one before. -/
theorem exists_get?_text {i : Nat} (stored : p.entries[i]? = some (name, value))
    (fits : name.fits = true) :
    ∃ j ≤ i, ∃ e, p.entries[j]? = some e ∧ p.get? name.text = some e.2 := by
  have own : name.GoesBy name.text := Name.answersTo_iff_goesBy.1 (Name.answersTo_text fits)
  cases found : p.get? name.text with
  | none => exact absurd own (get?_eq_none_iff.1 found _ (List.mem_of_getElem? stored))
  | some v =>
    obtain ⟨n, before, after, split, -, others⟩ := get?_eq_some_iff.1 found
    refine ⟨before.length, Nat.le_of_not_lt fun behind => ?_, (n, v), by simp [split], rfl⟩
    -- Otherwise the entry itself would stand before the first one that the text refers to.
    rw [split, List.getElem?_append_left behind] at stored
    exact others _ (List.mem_of_getElem? stored) own

/-- Parameters are a map in the order of insertion. A number and a name that shows the same text are two
names. -/
theorem ofList_ordered (steps : List (Name × Value)) {p : Params} (inserted : ofList steps = p) :
    p.Records steps ∧ (p.entries.map (·.1)).Nodup ∧
    (∀ name value, (name, value) ∈ p.entries ↔ InsertsLast steps name value) ∧
    (∀ name, p.getNamed? name = none ↔ name ∉ steps.map (·.1)) ∧
    (∀ key, (∀ value, p.get? key = some value ↔ ∃ name, p.FirstFor key name value) ∧
      (p.get? key = none ↔ ∀ e ∈ p.entries, ¬e.1.GoesBy key)) ∧
    ∀ (i : Nat) name value, p.entries[i]? = some (name, value) → name.fits = true →
      ∃ j ≤ i, ∃ e, p.entries[j]? = some e ∧ p.get? name.text = some e.2 := by
  have records : p.Records steps := inserted ▸ records_ofList steps
  refine ⟨records, records.nodup, fun name value => ?_, fun name => ?_,
    fun key => ⟨fun value => get?_eq_some_iff, get?_eq_none_iff⟩,
    fun i name value stored fits => exists_get?_text stored fits⟩
  · rw [mem_entries_iff records.nodup, records.latest]
  · rw [getNamed?_eq_none_iff, records.names]

/-- A number, a name that shows the same text, and a new value for the number. -/
theorem ofList_ordered_numbered : ∃ steps p, ofList steps = p ∧
    p.entries = [(.ordinal 0, .single ['c']), (.named ['0'], .single ['b'])] ∧ p.Records steps ∧
    ∃ j ≤ 1, ∃ e, p.entries[j]? = some e ∧ p.get? ['0'] = some e.2 := by
  let steps : List (Name × Value) :=
    [(.ordinal 0, .single ['a']), (.named ['0'], .single ['b']), (.ordinal 0, .single ['c'])]
  have entries : (ofList steps).entries =
      [(.ordinal 0, .single ['c']), (.named ['0'], .single ['b'])] := by decide
  have stored : (ofList steps).entries[1]? = some (.named ['0'], .single ['b']) := by rw [entries]; rfl
  obtain ⟨records, -, -, -, -, finds⟩ := ofList_ordered steps rfl
  exact ⟨steps, ofList steps, rfl, entries, records, finds 1 _ _ stored rfl⟩

end Params

end RoutePattern
