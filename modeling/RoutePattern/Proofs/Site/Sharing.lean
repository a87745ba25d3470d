import RoutePattern.Proofs.Site.Ledger

/-! # Shared prefixes over whole runs

Holders that share a prefix are a family. A run alone tells the family of each holder (`kinship`) and
what was last written for a family (`Latest`). Every step keeps the cells of a site in line with both
(`Kept.step`), so at the end of any run a holder reads what was last written for its family, and writing
for one family leaves all others and all tables alone (`reads_latest_of_run`).
-/

namespace RoutePattern

variable {M : Type}

/-! ## Families -/

/-- The families of all holders. They are numbered as their prefixes were made. -/
structure Kinship where
  count : Nat
  handles : List Nat
  routers : List Nat

namespace Kinship

def family? (k : Kinship) : Holder → Option Nat
  | .handle n => k.handles[n]?
  | .router n => k.routers[n]?

/-- A new prefix starts a family, and what shares a prefix joins the family of its origin. -/
def behind (k : Kinship) : Step M → Kinship
  | .fresh _ => { k with count := k.count + 1, handles := k.handles ++ [k.count] }
  | .share holder => { k with handles := k.handles ++ (k.family? holder).toList }
  | .mount holder _ => { k with routers := k.routers ++ (k.family? holder).toList }
  | .copy n => { k with routers := k.routers ++ (k.family? (.router n)).toList }
  | .set _ _ | .get _ | .apply _ _ | .setOptions _ _ | .register _ _ _ | .resolve _ _
  | .build _ _ _ | .entries _ => k

/-- The family for which a step writes a prefix, and the prefix. -/
def writes? (k : Kinship) : Step M → Option (Nat × Text)
  | .fresh value => some (k.count, value)
  | .set holder value => (k.family? holder).map (·, value)
  | .share _ | .mount _ _ | .copy _ | .get _ | .apply _ _ | .setOptions _ _ | .register _ _ _
  | .resolve _ _ | .build _ _ _ | .entries _ => none

end Kinship

/-- The families behind a run from an empty site. -/
def kinship (steps : List (Step M)) : Kinship := steps.foldl Kinship.behind ⟨0, [], []⟩

/-- The text is what the steps wrote last for the family. -/
def Latest (steps : List (Step M)) (family : Nat) (value : Text) : Prop :=
  ∃ before t after, steps = before ++ t :: after ∧ (kinship before).writes? t = some (family, value) ∧
    ∀ earlier u later, after = earlier ++ u :: later →
      ∀ other, (kinship (before ++ t :: earlier)).writes? u ≠ some (family, other)

/-- The holder whose prefix a step shares with a new one. -/
def Step.origin? : Step M → Option Holder
  | .share holder | .mount holder _ => some holder
  | .copy n => some (.router n)
  | .fresh _ | .set _ _ | .get _ | .apply _ _ | .setOptions _ _ | .register _ _ _ | .resolve _ _
  | .build _ _ _ | .entries _ => none

/-- The holder that an answer says is new. -/
def Answer.holder? : Answer M → Option Holder
  | .handle n => some (.handle n)
  | .router n => some (.router n)
  | .held _ | .path _ | .options _ | .registered _ _ | .resolved _ | .built _ | .entries _
  | .unknown => none

section Runs

variable {steps : List (Step M)} {t : Step M} {family : Nat} {value : Text}

theorem kinship_concat (steps : List (Step M)) (t : Step M) :
    kinship (steps ++ [t]) = (kinship steps).behind t := List.foldl_concat ..

theorem Kinship.family?_behind {k : Kinship} {h : Holder} (here : k.family? h = some family)
    (t : Step M) : (k.behind t).family? h = some family := by
  have append {cs : List Nat} {n : Nat} (here : cs[n]? = some family) (more : List Nat) :
      (cs ++ more)[n]? = some family := by
    rw [List.getElem?_append_left (List.getElem?_eq_some_iff.1 here).1, here]
  cases t <;> cases h <;> first | exact here | exact append here _

/-- A holder stays in its family. -/
theorem family?_kinship_append {h : Holder} (here : (kinship steps).family? h = some family)
    (later : List (Step M)) : (kinship (steps ++ later)).family? h = some family := by
  induction later using List.reverseRecOn with
  | nil => rwa [List.append_nil]
  | append_singleton later t ih =>
    rw [← List.append_assoc, kinship_concat]
    exact Kinship.family?_behind ih t

theorem latest_of_writes (writes : (kinship steps).writes? t = some (family, value)) :
    Latest (steps ++ [t]) family value :=
  ⟨steps, t, [], rfl, writes, fun earlier u later split => by simp at split⟩

theorem Latest.concat (latest : Latest steps family value)
    (others : ∀ other, (kinship steps).writes? t ≠ some (family, other)) :
    Latest (steps ++ [t]) family value := by
  obtain ⟨before, w, after, rfl, writes, last⟩ := latest
  refine ⟨before, w, after ++ [t], by simp, writes, fun earlier u later split => ?_⟩
  rcases List.eq_nil_or_concat later with rfl | ⟨later, u', rfl⟩
  · obtain ⟨rfl, same⟩ := List.append_inj' split rfl
    obtain rfl := List.singleton_inj.1 same
    exact others
  · rw [List.concat_eq_append, ← List.cons_append, ← List.append_assoc] at split
    exact last earlier u later (List.append_inj' split rfl).1

end Runs

namespace Site

variable {s : Site M} {steps : List (Step M)}

theorem run_append (s : Site M) (ts us : List (Step M)) :
    (s.run (ts ++ us)).1 = ((s.run ts).1.run us).1 := by
  induction ts generalizing s with
  | nil => rfl
  | cons t ts ih => exact ih (s.step t).1

/-! ## What a holder reads -/

/-- What is used for a text under a prefix: the text itself where it starts with the prefix, and otherwise
both, the prefix first. -/
def Prepends (value text used : Text) : Prop :=
  value <+: text ∧ used = text ∨ ¬value <+: text ∧ used = value ++ text

/-- All steps that name the holder go by this text: what is applied, resolved, built or registered is what
is used for it under the text. A table answers from the entries it has, whatever their prefix was. -/
structure Reads (s : Site M) (h : Holder) (value : Text) : Prop where
  get : s.step (.get h) = (s, .held ⟨value⟩)
  apply : ∀ path used, Prepends value path used → s.step (.apply h path) = (s, .path used)
  router : ∀ n, h = .router n → ∃ m, s.routers[n]? = some m ∧
    ∀ text used, Prepends value text used →
      (∃ answer, s.step (.resolve n text) = (s, .resolved answer) ∧
        Entry.FirstAnswer m.router.entries used answer) ∧
      (∀ data, s.step (.build n text data) =
        (s, .built ((m.router.entries.find? (·.pattern.text == used)).map (·.pattern.build data)))) ∧
      ∀ info, match Pattern.forUrl m.router.options used with
        | .ok compiled => compiled.text = used ∧ s.step (.register n text info) =
            (s.setRouter n { m with router := m.router.add ⟨compiled, info⟩ },
              .registered (m.router.size + 1) none)
        | .error e => s.step (.register n text info) = (s, .registered m.router.size (some e))

/-- The holder does not exist. -/
structure Lacks (s : Site M) (h : Holder) : Prop where
  get : s.step (.get h) = (s, .unknown)
  apply : ∀ path, s.step (.apply h path) = (s, .unknown)
  set : ∀ value, s.step (.set h value) = (s, .unknown)
  router : ∀ n, h = .router n →
    (∀ path, s.step (.resolve n path) = (s, .unknown)) ∧
    (∀ pattern data, s.step (.build n pattern data) = (s, .unknown)) ∧
    ∀ pattern info, s.step (.register n pattern info) = (s, .unknown)

theorem apply_of_prepends {p : Prefix} {text used : Text} (prepends : Prepends p.text text used) :
    p.apply text = used := by
  unfold Prefix.apply
  rcases prepends with ⟨starts, rfl⟩ | ⟨apart, rfl⟩
  · rw [if_pos (List.isPrefixOf_iff_prefix.2 starts)]
  · rw [if_neg (mt List.isPrefixOf_iff_prefix.1 apart)]

theorem reads_of_read? {h : Holder} {p : Prefix} (read : s.read? h = some p) : s.Reads h p.text where
  get := by simp [step, step?, read]
  apply := fun path used prepends => by simp [step, step?, read, apply_of_prepends prepends]
  router := by
    rintro n rfl
    obtain ⟨c, held, here⟩ := Option.bind_eq_some_iff.1 read
    obtain ⟨m, there, rfl⟩ := Option.map_eq_some_iff.1 held
    have mounted : s.mounted? n = some (m, p) := by simp [mounted?, there, here]
    refine ⟨m, there, fun text used prepends => ?_⟩
    obtain rfl := apply_of_prepends prepends
    refine ⟨⟨m.router.resolve? p text, by simp [step, step?, mounted], ?_⟩, fun data => ?_, fun info => ?_⟩
    · exact m.router.resolve?_firstAnswer p text
    · simp [step, step?, mounted, Router.build?]
    · rw [step_register mounted]
      cases compiles : Pattern.forUrl m.router.options (p.apply text) with
      | ok compiled => exact ⟨(Pattern.of_forUrl compiles).1, rfl⟩
      | error e => rfl

theorem reads_iff {h : Holder} {value : Text} : s.Reads h value ↔ s.read? h = some ⟨value⟩ := by
  refine ⟨fun reads => ?_, reads_of_read?⟩
  have answer := congrArg Prod.snd reads.get
  cases read : s.read? h with
  | none => simp [step, step?, read] at answer
  | some p => simpa [step, step?, read] using answer

theorem lacks_of_cell? {h : Holder} (absent : s.cell? h = none) : s.Lacks h where
  get := by simp [step, step?, read?, absent]
  apply := fun path => by simp [step, step?, read?, absent]
  set := fun value => by simp [step, step?, absent]
  router := by
    rintro n rfl
    have unknown : s.mounted? n = none := by simp [mounted?, Option.map_eq_none_iff.1 absent]
    simp [step, step?, unknown]

/-! ## Cells of families -/

/-- The cells are those of the families, and hold what was last written for them. -/
structure Kept (s : Site M) (steps : List (Step M)) : Prop where
  handles : s.handles = (kinship steps).handles
  routers : s.routers.map (·.cell) = (kinship steps).routers
  count : s.cells.length = (kinship steps).count
  latest : ∀ family p, s.cells[family]? = some p → Latest steps family p.text

section Kept

variable {ls : List (Ledger M)} {t : Step M}

theorem kept_empty : (empty : Site M).Kept [] := ⟨rfl, rfl, rfl, nofun⟩

theorem Kept.cell? (kept : s.Kept steps) (h : Holder) : s.cell? h = (kinship steps).family? h := by
  cases h with
  | handle n => rw [Site.cell?, kept.handles, Kinship.family?]
  | router n => rw [Site.cell?, ← List.getElem?_map, kept.routers, Kinship.family?]

/-- A step that writes nothing leaves the cells alone. -/
theorem Kept.silent (kept : s.Kept steps) (silent : (kinship steps).writes? t = none) {s' : Site M}
    (cells : s'.cells = s.cells) (count : ((kinship steps).behind t).count = (kinship steps).count)
    (handles : s'.handles = ((kinship steps).behind t).handles)
    (routers : s'.routers.map (·.cell) = ((kinship steps).behind t).routers) :
    s'.Kept (steps ++ [t]) where
  handles := by rw [handles, kinship_concat]
  routers := by rw [routers, kinship_concat]
  count := by rw [cells, kinship_concat, count, kept.count]
  latest := fun family p here => by
    rw [cells] at here
    exact (kept.latest family p here).concat (by simp [silent])

/-- The sites have the same holders, with the same cells. -/
structure Alike (s s' : Site M) : Prop where
  cells : s'.cells = s.cells
  handles : s'.handles = s.handles
  routers : s'.routers.map (·.cell) = s.routers.map (·.cell)

theorem Alike.refl (s : Site M) : s.Alike s := ⟨rfl, rfl, rfl⟩

theorem alike_setRouter {n : Nat} {m : Mounted M} (there : s.routers[n]? = some m)
    (router : Router M) : s.Alike (s.setRouter n { m with router }) where
  cells := rfl
  handles := rfl
  routers := by
    obtain ⟨inside, rfl⟩ := List.getElem?_eq_some_iff.1 there
    refine List.ext_getElem? fun i => ?_
    rw [setRouter, List.map_set, List.getElem?_set]
    split
    · next here =>
      subst here
      simp [inside]
    · rfl

theorem Kept.alike (kept : s.Kept steps) (silent : (kinship steps).writes? t = none)
    (kin : (kinship steps).behind t = kinship steps) (alike : s.Alike (s.step t).1) :
    (s.step t).1.Kept (steps ++ [t]) :=
  kept.silent silent alike.cells (by rw [kin]) (by rw [kin, alike.handles, kept.handles])
    (by rw [kin, alike.routers, kept.routers])

theorem Kept.fresh (kept : s.Kept steps) (value : Text) :
    (s.step (.fresh value)).1.Kept (steps ++ [.fresh value]) := by
  have writes : (kinship steps).writes? (.fresh value : Step M) = some (s.cells.length, value) := by
    rw [kept.count]
    rfl
  refine ⟨?_, ?_, ?_, fun family p here => ?_⟩
  · rw [kinship_concat, Kinship.behind, ← kept.handles, ← kept.count]
    rfl
  · rw [kinship_concat]
    exact kept.routers
  · rw [kinship_concat, Kinship.behind, ← kept.count]
    exact List.length_append
  · replace here : (s.cells ++ [⟨value⟩])[family]? = some p := here
    rw [List.getElem?_append] at here
    split at here
    · next inside =>
      refine (kept.latest family p here).concat fun other same => ?_
      rw [writes] at same
      exact absurd (congrArg Prod.fst (Option.some.inj same)) (Nat.ne_of_gt inside)
    · obtain ⟨only, rfl⟩ : family = s.cells.length ∧ (⟨value⟩ : Prefix) = p := by
        rw [List.getElem?_singleton] at here
        split at here
        · exact ⟨by omega, Option.some.inj here⟩
        · cases here
      exact latest_of_writes (only ▸ writes)

theorem cell?_cells (s : Site M) (cells : List Prefix) (h : Holder) :
    Site.cell? { s with cells } h = s.cell? h := by
  cases h <;> rfl

theorem step_set {h : Holder} {c : Nat} (held : s.cell? h = some c) (inside : c < s.cells.length)
    (value : Text) :
    s.step (.set h value) = ({ s with cells := s.cells.set c ⟨value⟩ }, .held ⟨value⟩) := by
  have read : read? { s with cells := s.cells.set c ⟨value⟩ } h = some ⟨value⟩ := by
    simp [read?, cell?_cells, held, inside]
  simp [step, step?, held, read]

theorem Kept.set (kept : s.Kept steps) (recorded : s.Recorded ls) (h : Holder) (value : Text) :
    (s.step (.set h value)).1.Kept (steps ++ [.set h value]) := by
  cases held : s.cell? h with
  | none =>
    have silent : (kinship steps).writes? (.set h value : Step M) = none := by
      rw [Kinship.writes?, ← kept.cell?, held, Option.map_none]
    refine kept.alike silent rfl ?_
    rw [(lacks_of_cell? held).set]
    exact .refl s
  | some c =>
    have writes : (kinship steps).writes? (.set h value : Step M) = some (c, value) := by
      rw [Kinship.writes?, ← kept.cell?, held, Option.map_some]
    have inside := recorded.cell_lt held
    rw [step_set held inside]
    refine ⟨?_, ?_, ?_, fun family p here => ?_⟩
    · rw [kinship_concat]
      exact kept.handles
    · rw [kinship_concat]
      exact kept.routers
    · rw [kinship_concat]
      exact List.length_set.trans kept.count
    · by_cases same : c = family
      · subst same
        rw [List.getElem?_set_self inside] at here
        obtain rfl := Option.some.inj here
        exact latest_of_writes writes
      · rw [List.getElem?_set_ne same] at here
        refine (kept.latest family p here).concat fun other again => same ?_
        rw [writes] at again
        exact congrArg Prod.fst (Option.some.inj again)

theorem Kept.step (kept : s.Kept steps) (recorded : s.Recorded ls) (t : Step M) :
    (s.step t).1.Kept (steps ++ [t]) := by
  cases t with
  | fresh value => exact kept.fresh value
  | set holder value => exact kept.set recorded holder value
  | share holder =>
    cases held : s.cell? holder <;>
      exact kept.silent rfl (by simp [Site.step, step?, held, addHandle]) rfl
        (by simp [Site.step, step?, held, addHandle, Kinship.behind, kept.handles, ← kept.cell?])
        (by simp [Site.step, step?, held, addHandle, Kinship.behind, kept.routers])
  | mount holder options =>
    cases held : s.cell? holder <;>
      exact kept.silent rfl (by simp [Site.step, step?, held, addRouter]) rfl
        (by simp [Site.step, step?, held, addRouter, Kinship.behind, kept.handles])
        (by simp [Site.step, step?, held, addRouter, Kinship.behind, kept.routers, ← kept.cell?])
  | copy n =>
    cases there : s.routers[n]? <;>
      exact kept.silent rfl (by simp [Site.step, step?, there, addRouter]) rfl
        (by simp [Site.step, step?, there, addRouter, Kinship.behind, kept.handles])
        (by simp [Site.step, step?, there, addRouter, Kinship.behind, kept.routers, ← kept.cell?, Site.cell?])
  | setOptions n options =>
    refine kept.alike rfl rfl ?_
    cases there : s.routers[n]? with
    | none => simpa [Site.step, step?, there] using Alike.refl s
    | some m =>
      simpa [Site.step, step?, there] using alike_setRouter there (m.router.withOptions options)
  | register n pattern info =>
    refine kept.alike rfl rfl ?_
    cases there : s.routers[n]? with
    | none =>
      have unknown : s.mounted? n = none := by simp [mounted?, there]
      simpa [Site.step, step?, unknown] using Alike.refl s
    | some m =>
      obtain ⟨-, p, -, -, -, mounted⟩ := recorded.router there
      rw [step_register mounted]
      cases Pattern.forUrl m.router.options (p.apply pattern) with
      | ok compiled => exact alike_setRouter there (m.router.add ⟨compiled, info⟩)
      | error e => exact Alike.refl s
  | get holder =>
    refine kept.alike rfl rfl ?_
    cases read : s.read? holder <;> simpa [Site.step, step?, read] using Alike.refl s
  | apply holder path =>
    refine kept.alike rfl rfl ?_
    cases read : s.read? holder <;> simpa [Site.step, step?, read] using Alike.refl s
  | resolve n path =>
    refine kept.alike rfl rfl ?_
    cases mounted : s.mounted? n <;> simpa [Site.step, step?, mounted] using Alike.refl s
  | build n pattern data =>
    refine kept.alike rfl rfl ?_
    cases mounted : s.mounted? n <;> simpa [Site.step, step?, mounted] using Alike.refl s
  | entries n =>
    refine kept.alike rfl rfl ?_
    cases there : s.routers[n]? <;> simpa [Site.step, step?, there] using Alike.refl s

theorem kept_run (steps : List (Step M)) : (empty.run steps).1.Kept steps := by
  induction steps using List.reverseRecOn with
  | nil => exact kept_empty
  | append_singleton steps t ih =>
    rw [run_append]
    exact ih.step (recorded_empty.run steps) t

end Kept

/-! ## At the end of a run -/

section Runs

variable {ls : List (Ledger M)}

theorem Kept.exists_reads (kept : s.Kept steps) (recorded : s.Recorded ls) {h : Holder}
    {family : Nat} (here : (kinship steps).family? h = some family) :
    ∃ value, Latest steps family value ∧ s.Reads h value := by
  rw [← kept.cell?] at here
  have inside := recorded.cell_lt here
  have there : s.cells[family]? = some s.cells[family] := List.getElem?_eq_getElem inside
  exact ⟨_, kept.latest family _ there, reads_of_read? (by simp [read?, here, there])⟩

/-- A new prefix starts a family of its own. -/
theorem Kept.fresh_family (kept : s.Kept steps) (recorded : s.Recorded ls) (value : Text) :
    ∃ h family, (s.step (.fresh value)).2.holder? = some h ∧
      (kinship (steps ++ [.fresh value])).family? h = some family ∧
      ∀ h', (kinship steps).family? h' ≠ some family := by
  refine ⟨.handle s.handles.length, s.cells.length, rfl, ?_, fun h' here => ?_⟩
  · rw [kinship_concat, Kinship.behind, ← kept.handles, ← kept.count]
    exact List.getElem?_concat_length
  · rw [← kept.cell?] at here
    exact Nat.lt_irrefl _ (recorded.cell_lt here)

theorem Kept.handle_joins (kept : s.Kept steps) {h : Holder} {family : Nat}
    (here : (kinship steps).family? h = some family) :
    (s.step (.share h)).2.holder? = some (.handle s.handles.length) ∧
      (kinship steps).family? (.handle s.handles.length) = none ∧
      (kinship (steps ++ [.share h])).family? (.handle s.handles.length) = some family := by
  refine ⟨?_, ?_, ?_⟩
  · simp [Site.step, step?, kept.cell?, here, addHandle, Answer.holder?]
  · rw [Kinship.family?, ← kept.handles]
    exact List.getElem?_eq_none (Nat.le_refl _)
  · rw [kinship_concat, Kinship.behind, here, ← kept.handles]
    exact List.getElem?_concat_length

/-- A router that is added to the site takes its cell along. -/
theorem Kept.router_joins (kept : s.Kept steps) {t : Step M} {m : Mounted M} {family : Nat}
    (answer : s.step t = s.addRouter m)
    (joins : (kinship steps).behind t =
      { kinship steps with routers := (kinship steps).routers ++ [family] }) :
    (s.step t).2.holder? = some (.router s.routers.length) ∧
      (kinship steps).family? (.router s.routers.length) = none ∧
      (kinship (steps ++ [t])).family? (.router s.routers.length) = some family := by
  have length : (kinship steps).routers.length = s.routers.length := by
    rw [← kept.routers, List.length_map]
  refine ⟨by rw [answer]; rfl, ?_, ?_⟩
  · exact List.getElem?_eq_none (Nat.le_of_eq length)
  · rw [kinship_concat, joins, ← length]
    exact List.getElem?_concat_length

/-- A holder that shares a prefix is new and joins the family of the one that has it. -/
theorem Kept.joins_family (kept : s.Kept steps) {t : Step M} {h : Holder} {family : Nat}
    (origin : t.origin? = some h) (here : (kinship steps).family? h = some family) :
    ∃ h', (s.step t).2.holder? = some h' ∧ (kinship steps).family? h' = none ∧
      (kinship (steps ++ [t])).family? h' = some family := by
  have held : s.cell? h = some family := (kept.cell? h).trans here
  cases t with
  | share holder =>
    obtain rfl := Option.some.inj origin
    exact ⟨_, kept.handle_joins here⟩
  | mount holder options =>
    obtain rfl := Option.some.inj origin
    exact ⟨_, kept.router_joins (m := ⟨family, .empty options⟩) (by simp [Site.step, step?, held])
      (by rw [Kinship.behind, here, Option.toList_some])⟩
  | copy n =>
    obtain rfl := Option.some.inj origin
    obtain ⟨m, there, -⟩ := Option.map_eq_some_iff.1 held
    exact ⟨_, kept.router_joins (m := m) (by simp [Site.step, step?, there])
      (by rw [Kinship.behind, here, Option.toList_some])⟩
  | _ => cases origin

/-- What is written for a family is read by its members, and all others read what they read before. -/
theorem Kept.set_reads (kept : s.Kept steps) (recorded : s.Recorded ls) {h : Holder} {family : Nat}
    (here : (kinship steps).family? h = some family) (value : Text) :
    ∃ s', s.step (.set h value) = (s', .held ⟨value⟩) ∧ s'.routers = s.routers ∧
      (∀ h', (kinship steps).family? h' = some family → s'.Reads h' value) ∧
      ∀ h' v, (kinship steps).family? h' ≠ some family → (s'.Reads h' v ↔ s.Reads h' v) := by
  have held : s.cell? h = some family := (kept.cell? h).trans here
  have inside := recorded.cell_lt held
  refine ⟨_, step_set held inside value, rfl, fun h' member => ?_, fun h' v other => ?_⟩
  · rw [← kept.cell?] at member
    exact reads_of_read? (by simp [read?, cell?_cells, member, inside])
  · rw [← kept.cell?] at other
    rw [reads_iff, reads_iff, read?, read?, cell?_cells]
    cases held' : s.cell? h' with
    | none => rfl
    | some c =>
      have apart : family ≠ c := fun same => other (same ▸ held')
      simp [List.getElem?_set_ne apart]

end Runs

/-- At the end of any run, a holder reads what was last written for its family, and all steps that name
it go by that. A new prefix starts a new family, what shares a prefix joins the family of its origin,
and nobody leaves a family. Writing for a family changes what its members read; all others read what
they read before, and no table changes. -/
theorem reads_latest_of_run (steps : List (Step M)) {s : Site M} (ran : (empty.run steps).1 = s) :
    (∀ h family, (kinship steps).family? h = some family →
      ∃ value, Latest steps family value ∧ s.Reads h value) ∧
    (∀ h, (kinship steps).family? h = none → s.Lacks h) ∧
    (∀ value, ∃ h family, (s.step (.fresh value)).2.holder? = some h ∧
      (kinship (steps ++ [.fresh value])).family? h = some family ∧
      ∀ h', (kinship steps).family? h' ≠ some family) ∧
    (∀ t h family, t.origin? = some h → (kinship steps).family? h = some family →
      ∃ h', (s.step t).2.holder? = some h' ∧ (kinship steps).family? h' = none ∧
        (kinship (steps ++ [t])).family? h' = some family) ∧
    (∀ h family later, (kinship steps).family? h = some family →
      (kinship (steps ++ later)).family? h = some family) ∧
    ∀ h family value, (kinship steps).family? h = some family →
      ∃ s', s.step (.set h value) = (s', .held ⟨value⟩) ∧ s'.routers = s.routers ∧
        (∀ h', (kinship steps).family? h' = some family → s'.Reads h' value) ∧
        ∀ h' v, (kinship steps).family? h' ≠ some family → (s'.Reads h' v ↔ s.Reads h' v) := by
  have recorded : s.Recorded (empty.ledgers [] steps) := ran ▸ recorded_empty.run steps
  have kept : s.Kept steps := ran ▸ kept_run steps
  refine ⟨fun h family => kept.exists_reads recorded, fun h absent => ?_,
    kept.fresh_family recorded, fun t h family origin here => kept.joins_family origin here,
    fun h family later here => family?_kinship_append here later,
    fun h family value here => kept.set_reads recorded here value⟩
  exact lacks_of_cell? ((kept.cell? h).trans absent)

/-- Two families, the first with a shared handle, a router and its copy, the second with a router. -/
def twoFamilies : List (Step Nat) :=
  [.fresh "/app".toList, .fresh "/v1".toList, .share (.handle 0), .mount (.handle 2) {}, .copy 0,
    .register 1 "/:id".toList 1, .mount (.handle 1) {}]

/-- Behind a change of the first family's prefix, its members put the new text before what does not start
with it, and an entry has the text of its registration. The second family keeps its prefix. -/
theorem reads_latest_of_run_families : ∃ s', (empty.run twoFamilies).1.step
      (.set (.router 1) "/v2".toList) = (s', .held ⟨"/v2".toList⟩) ∧
    s'.routers = (empty.run twoFamilies).1.routers ∧
    (empty.run twoFamilies).1.step (.apply (.handle 2) "/a".toList) =
      ((empty.run twoFamilies).1, .path "/app/a".toList) ∧
    s'.step (.apply (.handle 2) "/a".toList) = (s', .path "/v2/a".toList) ∧
    s'.step (.apply (.router 0) "/v2/a".toList) = (s', .path "/v2/a".toList) ∧
    (∃ (answer : Option (Resolved Nat)) (m : Mounted Nat), s'.step (.resolve 1 "/7".toList) = (s', .resolved answer) ∧
      s'.routers[1]? = some m ∧ m.router.entries.map (·.pattern.text) = ["/app/:id".toList] ∧
      Entry.FirstAnswer m.router.entries "/v2/7".toList answer) ∧
    (∃ (compiled : Pattern) (m : Mounted Nat), s'.step (.register 0 "/:id".toList 2) =
        (s'.setRouter 0 { m with router := m.router.add ⟨compiled, 2⟩ },
          .registered (m.router.size + 1) none) ∧ compiled.text = "/v2/:id".toList) ∧
    Latest twoFamilies 1 "/v1".toList ∧
    s'.step (.apply (.router 2) "/a".toList) = (s', .path "/v1/a".toList) := by
  obtain ⟨reads, -, -, -, -, sets⟩ := reads_latest_of_run twoFamilies rfl
  obtain ⟨s', answer, routers, members, others⟩ := sets (.router 1) 0 "/v2".toList (by decide)
  have fresh {value text : Text} (apart : ¬value <+: text) : Prepends value text (value ++ text) :=
    .inr ⟨apart, rfl⟩
  have compiles : (empty.run twoFamilies).1.routers[0]?.map (fun m =>
      (Pattern.forUrl m.router.options "/v2/:id".toList).toOption.isSome) = some true := by
    decide +kernel
  have texts : (empty.run twoFamilies).1.routers[1]?.map (·.router.entries.map (·.pattern.text)) =
      some ["/app/:id".toList] := by decide +kernel
  obtain ⟨first, -, before⟩ := reads (.handle 2) 0 (by decide)
  obtain ⟨second, latest, other⟩ := reads (.router 2) 1 (by decide)
  obtain rfl : first = "/app".toList :=
    congrArg Prefix.text (Option.some.inj ((reads_iff.1 before).symm.trans (by decide +kernel)))
  obtain rfl : second = "/v1".toList :=
    congrArg Prefix.text (Option.some.inj ((reads_iff.1 other).symm.trans (by decide +kernel)))
  obtain ⟨m, there, used⟩ := (members (.router 0) (by decide)).router 0 rfl
  obtain ⟨m', there', used'⟩ := (members (.router 1) (by decide)).router 1 rfl
  refine ⟨s', answer, routers, before.apply _ _ (fresh (by decide)),
    (members _ (by decide)).apply _ _ (fresh (by decide)),
    (members _ (by decide)).apply _ _ (.inl ⟨by decide, rfl⟩), ?_, ?_, latest,
    ((others _ _ (by decide)).2 other).apply _ _ (fresh (by decide))⟩
  · obtain ⟨⟨found, resolved, first⟩, -, -⟩ := used' "/7".toList _ (fresh (by decide))
    rw [← routers, there', Option.map_some, Option.some.injEq] at texts
    exact ⟨found, m', resolved, there', texts, first⟩
  · obtain ⟨-, -, registered⟩ := used "/:id".toList _ (fresh (by decide))
    rw [← routers, there, Option.map_some, Option.some.injEq] at compiles
    have step := registered 2
    cases compiled : Pattern.forUrl m.router.options "/v2/:id".toList with
    | error e =>
      rw [compiled] at compiles
      cases compiles
    | ok p =>
      rw [show "/v2".toList ++ "/:id".toList = "/v2/:id".toList from rfl, compiled] at step
      exact ⟨p, m, step.2, step.1⟩

end Site

end RoutePattern
