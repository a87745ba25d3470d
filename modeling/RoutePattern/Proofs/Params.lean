import RoutePattern.Proofs.Pattern.Compiled
import RoutePattern.Proofs.Token.Layout

/-! # The parameters of keys

Keys with distinct names and the values that some of them have make parameters, in which each key finds
its value again (`get?_ofValues`). A match gives such parameters (`paramsFrom_eq`).
-/

namespace RoutePattern

namespace Key

/-- The values of keys, each under the name of its key. -/
def entries : List Key → List (Option Value) → List (Name × Value)
  | k :: ks, some v :: vs => (k.name, v) :: entries ks vs
  | _ :: ks, none :: vs => entries ks vs
  | _, _ => []

theorem names_entries {ks : List Key} {vs : List (Option Value)} {e : Name × Value}
    (member : e ∈ entries ks vs) : e.1 ∈ ks.map (·.name) := by
  fun_induction entries ks vs with
  | case1 k ks v vs ih =>
    rcases List.mem_cons.1 member with rfl | later
    · exact List.mem_cons_self
    · exact List.mem_cons_of_mem _ (ih later)
  | case2 k ks vs ih => exact List.mem_cons_of_mem _ (ih member)
  | case3 => cases member

/-- No name of a parameter answers to the text of another one's name. -/
def AreApart (ks : List Key) : Prop :=
  ks.Pairwise fun k k' =>
    k.name.answersTo k'.name.text = false ∧ k'.name.answersTo k.name.text = false

instance (ks : List Key) : Decidable (AreApart ks) := inferInstanceAs (Decidable (ks.Pairwise _))

theorem AreApart.nodup {ks : List Key} (apart : AreApart ks)
    (own : ∀ k ∈ ks, k.name.answersTo k.name.text = true) : (ks.map (·.name)).Nodup := by
  refine List.pairwise_map.2 (List.Pairwise.imp_of_mem (fun {k k'} member _ foreign same => ?_) apart)
  rw [← same, own k member] at foreign
  cases foreign.1

/-- The values that captured texts stand for. -/
def valuesOf (decode : Codec) (ks : List Key) (raws : List (Option Text)) : List (Option Value) :=
  ks.zipWith (fun k raw => raw.map (k.value decode)) raws

theorem length_valuesOf (decode : Codec) {ks : List Key} {raws : List (Option Text)}
    (same : raws.length = ks.length) : (valuesOf decode ks raws).length = ks.length := by
  simp [valuesOf, same]

end Key

namespace Params

/-- The parameters that give values to keys. -/
def ofValues (ks : List Key) (vs : List (Option Value)) : Params := ⟨Key.entries ks vs⟩

variable {ks : List Key} {k : Key} {entries : List (Name × Value)}

theorem put_new {name : Name} (new : name ∉ entries.map (·.1)) (value : Value) :
    put name value entries = entries ++ [(name, value)] := by
  induction entries with
  | nil => rfl
  | cons e rest ih =>
    simp only [List.map_cons, List.mem_cons, not_or] at new
    rw [put, if_neg (Ne.symm new.1), ih new.2, List.cons_append]

/-- Distinct names keep their values and their places. -/
theorem ofList_of_nodup (distinct : (entries.map (·.1)).Nodup) : ofList entries = ⟨entries⟩ := by
  induction entries using List.reverseRecOn with
  | nil => rfl
  | append_singleton entries e ih =>
    rw [List.map_append, List.nodup_append] at distinct
    have new : e.1 ∉ entries.map (·.1) := fun member =>
      distinct.2.2 _ member _ (List.mem_singleton_self _) rfl
    have before : entries.foldl (fun p e => p.insert e.1 e.2) empty = ⟨entries⟩ := ih distinct.1
    rw [ofList, List.foldl_concat, before, insert, put_new new]

theorem answersTo_iff (named : ∃ n, k.name = .named n) {n : Name} (other : ∃ t, n = .named t) :
    n.answersTo k.name.text = true ↔ n = k.name := by
  obtain ⟨t, name⟩ := named
  obtain ⟨t', rfl⟩ := other
  simp [name, Name.text, Name.answersTo]

theorem get?_cons (name : Name) (value : Value) (entries : List (Name × Value)) (key : Text) :
    get? ⟨(name, value) :: entries⟩ key =
      if name.answersTo key then some value else get? ⟨entries⟩ key := by
  simp only [get?, List.find?_cons]
  split <;> simp_all

/-- Each key finds its own value, where no name answers to the text of another one. -/
theorem get?_ofValues_of_areApart (own : ∀ k ∈ ks, k.name.answersTo k.name.text = true)
    (apart : Key.AreApart ks) {vs : List (Option Value)} (each : vs.length = ks.length) :
    ks.map (fun k => (ofValues ks vs).get? k.name.text) = vs := by
  induction ks generalizing vs with
  | nil => exact (List.length_eq_zero_iff.1 each).symm
  | cons k ks ih =>
    obtain ⟨v, vs, rfl⟩ := List.exists_cons_of_length_eq_add_one each
    rw [List.forall_mem_cons] at own
    obtain ⟨foreign, apart⟩ := List.pairwise_cons.1 apart
    have later := ih own.2 apart (by simpa using each)
    rw [List.map_cons]
    cases v with
    | some v =>
      -- The first key finds its value, and the later keys pass over it.
      have first : (ofValues (k :: ks) (some v :: vs)).get? k.name.text = some v := by
        rw [ofValues, Key.entries, get?_cons, if_pos own.1]
      rw [first]
      congr 1
      refine (List.map_congr_left fun k' member => ?_).trans later
      rw [ofValues, Key.entries, get?_cons, if_neg (by simp [(foreign k' member).1])]
      rfl
    | none =>
      -- What is left has the names of the later keys, and none of them answers to the first one.
      have absent : (ofValues (k :: ks) (none :: vs)).get? k.name.text = none := by
        simp only [ofValues, Key.entries, get?, Option.map_eq_none_iff, List.find?_eq_none]
        intro e member
        obtain ⟨k', listed, name⟩ := List.mem_map.1 (Key.names_entries member)
        simp [← name, (foreign k' listed).2]
      rw [absent]
      congr 1

theorem areApart_of_named (named : ∀ k ∈ ks, ∃ n, k.name = .named n)
    (distinct : (ks.map (·.name)).Nodup) : Key.AreApart ks := by
  refine List.Pairwise.imp_of_mem (fun {k k'} member member' other => ?_)
    (List.pairwise_map.1 distinct)
  simp only [← Bool.not_eq_true, answersTo_iff (named k member) (named k' member'),
    answersTo_iff (named k' member') (named k member)]
  exact ⟨other, other.symm⟩

/-- Each key finds its own value. -/
theorem get?_ofValues (named : ∀ k ∈ ks, ∃ n, k.name = .named n) (distinct : (ks.map (·.name)).Nodup)
    {vs : List (Option Value)} (each : vs.length = ks.length) :
    ks.map (fun k => (ofValues ks vs).get? k.name.text) = vs := by
  refine get?_ofValues_of_areApart (fun k member => ?_) (areApart_of_named named distinct) each
  exact (answersTo_iff (named k member) (named k member)).2 rfl

end Params

namespace Matcher

/-- The parameters of a match, where no two keys have the same name. -/
theorem paramsFrom_eq (decode : Codec) (found : Found) {ks : List Key}
    (distinct : (ks.map (·.name)).Nodup) (group : Nat) {params : Params}
    (new : ∀ k ∈ ks, k.name ∉ params.entries.map (·.1)) :
    paramsFrom decode found (group + 1) ks params =
      ⟨params.entries ++
        Key.entries ks (Key.valuesOf decode ks (found.thread.raws group ks.length))⟩ := by
  induction ks generalizing group params with
  | nil => simp [paramsFrom, Key.entries]
  | cons k ks ih =>
    rw [List.map_cons, List.nodup_cons] at distinct
    have there : ∀ k' ∈ ks, k'.name ∉ params.entries.map (·.1) :=
      fun k' member => new k' (List.mem_cons_of_mem k member)
    have left_out : found.thread.raw? (group + 1) = none →
        paramsFrom decode found (group + 1 + 1) ks params =
          ⟨params.entries ++ Key.entries (k :: ks)
            (Key.valuesOf decode (k :: ks) (found.thread.raws group (k :: ks).length))⟩ := by
      intro none
      rw [ih distinct.2 (group + 1) there]
      simp [Thread.raws, none, Key.valuesOf, Key.entries]
    simp only [paramsFrom, Found.group?]
    -- A group that holds an empty text counts as one that holds nothing.
    cases text : found.thread.text? (group + 1) with
    | none => exact left_out (by simp [Thread.raw?, text])
    | some raw =>
      cases raw with
      | nil => exact left_out (by simp [Thread.raw?, text])
      | cons c raw =>
        have held : found.thread.raw? (group + 1) = some (c :: raw) := by simp [Thread.raw?, text]
        -- The name is new, so its value goes to the end.
        have entries : (params.insert k.name (k.value decode (c :: raw))).entries =
            params.entries ++ [(k.name, k.value decode (c :: raw))] :=
          Params.put_new (new k List.mem_cons_self) _
        have later : ∀ k' ∈ ks,
            k'.name ∉ (params.insert k.name (k.value decode (c :: raw))).entries.map (·.1) := by
          intro k' member
          have foreign : k'.name ≠ k.name := by
            intro same
            exact distinct.1 (same ▸ List.mem_map_of_mem member)
          simpa [entries, foreign] using there k' member
        rw [ih distinct.2 (group + 1) later, entries]
        simp [Thread.raws, held, Key.valuesOf, Key.entries]

/-- What a match for tokens answers. -/
theorem Of.match?_eq {o : Options} {ts : List Token} {m : Matcher} (compiled : m.Of o ts)
    (distinct : ((Token.keys ts).map (·.name)).Nodup) (path : Text) :
    m.match? path = (m.program.find? path).map fun found =>
      ⟨found.text, found.start.byteOffset, .ofValues (Token.keys ts)
        (Key.valuesOf o.decode (Token.keys ts)
          (found.thread.raws 0 (Token.keys ts).length))⟩ := by
  have params : ∀ found, paramsFrom o.decode found 1 (Token.keys ts) .empty = .ofValues _ _ :=
    fun found => paramsFrom_eq o.decode found distinct 0 (by simp [Params.empty])
  simp only [match?, compiled.keys, compiled.decode, params]

end Matcher

end RoutePattern
