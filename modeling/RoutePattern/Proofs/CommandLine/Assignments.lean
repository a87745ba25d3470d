import RoutePattern.CommandLine.Assignments
import RoutePattern.Proofs.Except
import RoutePattern.Proofs.Params
import RoutePattern.Proofs.Text.Split

/-! # Parameters from arguments

Arguments `name=value` are parameters without loss (`params_collected`): each name has one entry, at the
place where it first came, and all its values in their order. An assignment puts its value behind the
others of its name (`put_of_mem`) or, if the name is new, into a group behind all others
(`put_of_not_mem`), so the groups of a list of assignments are told by the list itself (`group_eq`).
-/

namespace RoutePattern.CommandLine.Assignments

/-- The argument is the name and the value with the first `=` between them. -/
structure Assigns (t : Text) (assignment : Text × Text) : Prop where
  text : t = assignment.1 ++ '=' :: assignment.2
  first : '=' ∉ assignment.1

/-- The values that are assigned to a name, in order. -/
def valuesOf (assignments : List (Text × Text)) (name : Text) : List Text :=
  (assignments.filter (·.1 = name)).map (·.2)

/-- The value of a name to which these texts are assigned. -/
inductive Collects : List Text → Value → Prop
  | once (t : Text) : Collects [t] (.single t)
  | again {ts : List Text} (several : 1 < ts.length) : Collects ts (.repeated ts)

variable {t t' name value : Text} {assignments : List (Text × Text)}

/-! ## One argument -/

theorem exists_assigns (present : '=' ∈ t) : ∃ assignment, Assigns t assignment := by
  obtain ⟨name, c, value, same, clear, rfl⟩ :=
    Text.exists_firstMark (P := (· = '=')) ⟨_, present, rfl⟩
  exact ⟨(name, value), same, fun member => clear _ member rfl⟩

theorem exists_assignments {args : List Text} (present : ∀ t ∈ args, '=' ∈ t) :
    ∃ assignments, List.Forall₂ Assigns args assignments := by
  induction args with
  | nil => exact ⟨[], .nil⟩
  | cons t args ih =>
    rw [List.forall_mem_cons] at present
    obtain ⟨assignment, here⟩ := exists_assigns present.1
    obtain ⟨assignments, later⟩ := ih present.2
    exact ⟨assignment :: assignments, .cons here later⟩

/-- The assignment of an argument, or the argument itself if it gives none. -/
def readOrBlame (t : Text) : Except Text (Text × Text) := (read? t).elim (.error t) .ok

theorem readOrBlame_eq_ok {assignment : Text × Text} (assigns : Assigns t assignment) :
    readOrBlame t = .ok assignment := by
  rw [readOrBlame, read?, assigns.text, Text.splitFirst_append assigns.first]
  rfl

theorem readOrBlame_eq_error_iff : readOrBlame t = .error t' ↔ t = t' ∧ '=' ∉ t := by
  by_cases present : '=' ∈ t
  · obtain ⟨assignment, assigns⟩ := exists_assigns present
    simp [readOrBlame_eq_ok assigns, present]
  · rw [readOrBlame, read?, Text.splitFirst_of_not_mem present]
    simp [present]

theorem exists_readOrBlame_iff : (∃ assignment, readOrBlame t = .ok assignment) ↔ '=' ∈ t := by
  constructor
  · rintro ⟨assignment, read⟩
    by_contra absent
    rw [readOrBlame_eq_error_iff.2 ⟨rfl, absent⟩] at read
    cases read
  · intro present
    obtain ⟨assignment, assigns⟩ := exists_assigns present
    exact ⟨assignment, readOrBlame_eq_ok assigns⟩

/-! ## Groups -/

/-- A name that is new comes last. -/
theorem eraseDups_concat (names : List Text) (name : Text) :
    (names ++ [name]).eraseDups =
      if name ∈ names then names.eraseDups else names.eraseDups ++ [name] := by
  rw [List.eraseDups_append]
  split
  · rename_i old
    simp [List.removeAll, old]
  · rename_i new
    simp [List.removeAll, new, List.eraseDups_cons]

theorem nodup_eraseDups (names : List Text) : names.eraseDups.Nodup := by
  induction names using List.reverseRecOn with
  | nil => exact List.nodup_nil
  | append_singleton names name ih =>
    rw [eraseDups_concat]
    split
    · exact ih
    · rename_i new
      refine ih.append (List.nodup_singleton name) (List.disjoint_singleton.2 ?_)
      rwa [List.mem_eraseDups]

theorem valuesOf_concat (assignments : List (Text × Text)) (name value n : Text) :
    valuesOf (assignments ++ [(name, value)]) n =
      if n = name then valuesOf assignments n ++ [value] else valuesOf assignments n := by
  by_cases same : n = name
  · simp [valuesOf, same]
  · simp [valuesOf, same, Ne.symm same]

theorem valuesOf_eq_nil_iff : valuesOf assignments name = [] ↔ name ∉ assignments.map (·.1) := by
  simp only [valuesOf, List.map_eq_nil_iff, List.filter_eq_nil_iff, decide_eq_true_eq, List.mem_map,
    not_exists, not_and]

theorem put_of_mem {names : List Text} (distinct : names.Nodup) (member : name ∈ names)
    (values : Text → List Text) :
    put name value (names.map fun n => (n, values n)) =
      names.map fun n => (n, if n = name then values n ++ [value] else values n) := by
  induction names with
  | nil => cases member
  | cons n names ih =>
    rw [List.nodup_cons] at distinct
    by_cases same : n = name
    · -- The name stands nowhere else.
      subst same
      have others : ∀ m ∈ names, m ≠ n := fun m later same => distinct.1 (same ▸ later)
      rw [List.map_cons, put, if_pos rfl, List.map_cons, if_pos rfl]
      congr 1
      exact List.map_congr_left fun m later => by rw [if_neg (others m later)]
    · have later := (List.mem_cons.1 member).resolve_left (Ne.symm same)
      rw [List.map_cons, put, if_neg same, ih distinct.2 later, List.map_cons, if_neg same]

theorem put_of_not_mem {names : List Text} (new : name ∉ names) (values : Text → List Text) :
    put name value (names.map fun n => (n, values n)) =
      (names.map fun n => (n, values n)) ++ [(name, [value])] := by
  induction names with
  | nil => rfl
  | cons n names ih =>
    rw [List.mem_cons, not_or] at new
    rw [List.map_cons, put, if_neg (Ne.symm new.1), ih new.2, List.cons_append]

/-- The names in the order in which they first come, each with its values. -/
theorem group_eq (assignments : List (Text × Text)) :
    group assignments =
      (assignments.map (·.1)).eraseDups.map fun n => (n, valuesOf assignments n) := by
  -- From the back: the last assignment is put into the groups of those before it.
  induction assignments using List.reverseRecOn with
  | nil => rfl
  | append_singleton assignments a ih =>
    obtain ⟨name, value⟩ := a
    have before : assignments.foldl (fun groups a => put a.1 a.2 groups) [] = _ := ih
    rw [group, List.foldl_concat, before, List.map_append, List.map_singleton, eraseDups_concat]
    simp only [valuesOf_concat]
    split
    · rename_i old
      rw [put_of_mem (nodup_eraseDups _) (List.mem_eraseDups.2 old)]
    · rename_i new
      have unseen : name ∉ (assignments.map (·.1)).eraseDups := mt List.mem_eraseDups.1 new
      rw [put_of_not_mem unseen, List.map_append, List.map_singleton, if_pos rfl,
        valuesOf_eq_nil_iff.2 new, List.nil_append]
      -- The groups that were there are those of other names.
      congr 1
      refine List.map_congr_left fun n member => ?_
      rw [if_neg]
      rintro rfl
      exact unseen member

theorem collects_valueOf {ts : List Text} (filled : ts ≠ []) : Collects ts (valueOf ts) := by
  match ts with
  | [] => exact absurd rfl filled
  | [t] => exact .once t
  | t :: t' :: ts => exact .again (by simp)

/-! ## All arguments -/

theorem params_eq (args : List Text) :
    params args = (args.mapM readOrBlame).map fun assignments =>
      .ofList ((group assignments).map fun g => (.named g.1, valueOf g.2)) :=
  bind_ok_eq_map _ _

theorem params_eq_error_iff {args : List Text} :
    params args = .error t ↔ ∃ before after, args = before ++ t :: after ∧ '=' ∉ t ∧
      ∀ t' ∈ before, '=' ∈ t' := by
  simp only [params_eq, map_eq_error_iff, mapM_eq_error_iff, readOrBlame_eq_error_iff,
    exists_readOrBlame_iff]
  constructor
  · rintro ⟨before, t', after, rfl, earlier, rfl, absent⟩
    exact ⟨before, after, rfl, absent, earlier⟩
  · rintro ⟨before, after, rfl, absent, earlier⟩
    exact ⟨before, t, after, rfl, earlier, rfl, absent⟩

theorem exists_params_eq_error_iff {args : List Text} :
    (∃ t, params args = .error t) ↔ ∃ t ∈ args, '=' ∉ t := by
  simp only [params_eq, map_eq_error_iff, exists_mapM_eq_error_iff, readOrBlame_eq_error_iff,
    exists_eq_left']

theorem params_eq_ok {args : List Text} (each : List.Forall₂ Assigns args assignments) :
    params args = .ok ⟨(assignments.map (·.1)).eraseDups.map fun n =>
      (.named n, valueOf (valuesOf assignments n))⟩ := by
  have read : args.mapM readOrBlame = .ok assignments :=
    mapM_eq_ok_iff.2 (each.imp fun _ _ => readOrBlame_eq_ok)
  have entries : (group assignments).map (fun g => (Name.named g.1, valueOf g.2)) =
      (assignments.map (·.1)).eraseDups.map fun n => (.named n, valueOf (valuesOf assignments n)) := by
    rw [group_eq, List.map_map]
    rfl
  have distinct : (((assignments.map (·.1)).eraseDups.map fun n =>
      (Name.named n, valueOf (valuesOf assignments n))).map (·.1)).Nodup := by
    rw [List.map_map]
    exact (nodup_eraseDups _).map fun n n' same => Name.named.inj same
  rw [params_eq, read, ← Params.ofList_of_nodup distinct, ← entries]
  rfl

/-- Arguments are refused for the first of them that has no `=`. Otherwise each name that is assigned to
has one entry, at the place where it first comes, with its only value or with all its values in order. -/
theorem params_collected (args : List Text) :
    ((∃ t, params args = .error t) ↔ ∃ t ∈ args, '=' ∉ t) ∧
    (∀ t, params args = .error t ↔ ∃ before after, args = before ++ t :: after ∧ '=' ∉ t ∧
      ∀ t' ∈ before, '=' ∈ t') ∧
    ((∀ t ∈ args, '=' ∈ t) → ∃ assignments p, List.Forall₂ Assigns args assignments ∧
      params args = .ok p ∧
      List.Forall₂ (fun n e => e.1 = .named n ∧ Collects (valuesOf assignments n) e.2)
        (assignments.map (·.1)).eraseDups p.entries) := by
  refine ⟨exists_params_eq_error_iff, fun t => params_eq_error_iff, fun present => ?_⟩
  obtain ⟨assignments, each⟩ := exists_assignments present
  refine ⟨assignments, _, each, params_eq_ok each,
    List.forall₂_map_right_iff.2 (List.forall₂_same.2 fun n member => ?_)⟩
  have given : n ∈ assignments.map (·.1) := List.mem_eraseDups.1 member
  exact ⟨rfl, collects_valueOf (mt valuesOf_eq_nil_iff.1 (not_not_intro given))⟩

/-- Two names that come in turn, a value with `=` in it, and an empty one. -/
theorem params_collected_in_turn : ∃ args assignments p,
    args = ["tag=a".toList, "q=x=y".toList, "tag=".toList] ∧ (∀ t ∈ args, '=' ∈ t) ∧
      List.Forall₂ Assigns args assignments ∧ params args = .ok p ∧
      List.Forall₂ (fun n e => e.1 = .named n ∧ Collects (valuesOf assignments n) e.2)
        (assignments.map (·.1)).eraseDups p.entries ∧
      p.entries = [(.named "tag".toList, .repeated ["a".toList, []]),
        (.named "q".toList, .single "x=y".toList)] := by
  let args := ["tag=a".toList, "q=x=y".toList, "tag=".toList]
  have present : ∀ t ∈ args, '=' ∈ t := by decide
  obtain ⟨assignments, p, each, read, collected⟩ := (params_collected args).2.2 present
  have evaluated : (params args).toOption.map (·.entries) =
      some [(.named "tag".toList, .repeated ["a".toList, []]),
        (.named "q".toList, .single "x=y".toList)] := by decide +kernel
  rw [read] at evaluated
  exact ⟨args, assignments, p, rfl, present, each, read, collected, Option.some.inj evaluated⟩

end RoutePattern.CommandLine.Assignments
