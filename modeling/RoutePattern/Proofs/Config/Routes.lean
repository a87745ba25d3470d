import RoutePattern.Config
import RoutePattern.Proofs.Site.Ledger

/-! # Routers of configurations

A router of a configuration comes from compiling all its routes in order and putting the entries into a
table (`router_eq`). So the first route that is rejected is what it fails for, and otherwise the table has
one entry for each route, those of plain patterns first (`router_lists`).
-/

namespace RoutePattern

namespace Router

variable {M : Type}

theorem options_add (r : Router M) (e : Entry M) : (r.add e).options = r.options := by
  unfold add
  split <;> rfl

/-- Entries that are added one after the other keep their order among those of their kind. -/
theorem foldl_add (r : Router M) (es : List (Entry M)) :
    es.foldl add r = ⟨r.options, r.plain ++ es.filter (·.pattern.plain),
      r.dynamic ++ es.filter (!·.pattern.plain)⟩ := by
  induction es generalizing r with
  | nil => simp
  | cons e es ih =>
    rw [List.foldl_cons, ih]
    cases plain : e.pattern.plain <;> simp [add, plain]

end Router

namespace Config

/-- What the pattern of a route compiles to behind the prefix, under the options of the configuration. -/
def compile (c : Config) (s : RouteSpec) : Except SyntaxError Pattern :=
  Pattern.forUrl c.options (c.mountPrefix.apply s.pattern)

/-- The entry of a route: its pattern behind the prefix, its labels, and its own name or else its text
without the prefix. -/
structure Lists (c : Config) (s : RouteSpec) (e : Entry RouteInfo) : Prop where
  compiled : c.compile s = .ok e.pattern
  text : e.pattern.text = c.mountPrefix.apply s.pattern
  named : ∀ name, s.name = some name → e.info.name = name
  nameless : s.name = none → e.info.name = s.pattern
  labels : e.info.labels = s.labels

variable {c : Config} {s : RouteSpec} {e : Entry RouteInfo}

def entry (c : Config) (s : RouteSpec) : Except SyntaxError (Entry RouteInfo) :=
  (c.compile s).map (⟨·, s.info⟩)

theorem lists_of_entry (made : c.entry s = .ok e) : c.Lists s e := by
  obtain ⟨p, compiled, rfl⟩ := map_eq_ok_iff.1 made
  refine ⟨compiled, (Pattern.of_forUrl compiled).1, fun name own => ?_, fun none => ?_, rfl⟩
  · simp [RouteSpec.info, RouteSpec.effectiveName, own]
  · simp [RouteSpec.info, RouteSpec.effectiveName, none]

theorem Lists.plain (lists : c.Lists s e) : e.pattern.plain = e.isPlain :=
  (Pattern.of_forUrl lists.compiled).2

theorem register_eq_map {r : Router RouteInfo} (same : r.options = c.options) (s : RouteSpec) :
    r.register c.mountPrefix s.pattern s.info = (c.entry s).map r.add := by
  rw [Router.register, same, bind_ok_eq_map, entry, except_map_map]
  rfl

/-- Registering routes one after the other compiles all of them first. -/
theorem foldlM_register {r : Router RouteInfo} (same : r.options = c.options) (routes : List RouteSpec) :
    routes.foldlM (fun r s => r.register c.mountPrefix s.pattern s.info) r =
      (routes.mapM c.entry).map (·.foldl Router.add r) := by
  -- Over all routers with these options, since each entry that is added makes another router.
  induction routes generalizing r with
  | nil => rfl
  | cons s routes ih =>
    rw [List.foldlM_cons, List.mapM_cons, register_eq_map same]
    cases c.entry s with
    | error e => rfl
    | ok e =>
      have kept : (r.add e).options = c.options := (Router.options_add r e).trans same
      change List.foldlM _ (r.add e) routes = _
      rw [ih kept]
      cases routes.mapM c.entry <;> rfl

theorem router_eq (c : Config) :
    c.router = (c.routes.mapM c.entry).map (·.foldl Router.add (.empty c.options)) :=
  foldlM_register rfl c.routes

theorem entry_eq_error_iff {e : SyntaxError} : c.entry s = .error e ↔ c.compile s = .error e :=
  map_eq_error_iff

theorem exists_entry_iff : (∃ e, c.entry s = .ok e) ↔ ∃ p, c.compile s = .ok p := by
  cases compiled : c.compile s <;> simp [entry, compiled, Except.map]

/-- The first route that is rejected is what the router fails for. -/
theorem router_eq_error_iff {e : SyntaxError} :
    c.router = .error e ↔ ∃ before s after, c.routes = before ++ s :: after ∧
      (∀ s' ∈ before, ∃ p, c.compile s' = .ok p) ∧ c.compile s = .error e := by
  simp only [router_eq, map_eq_error_iff, mapM_eq_error_iff, entry_eq_error_iff, exists_entry_iff]

theorem exists_router_eq_error_iff :
    (∃ e, c.router = .error e) ↔ ∃ s ∈ c.routes, ∃ e, c.compile s = .error e := by
  simp only [router_eq, map_eq_error_iff, exists_mapM_eq_error_iff, entry_eq_error_iff]

/-- Entries of routes, added in their order: those of plain patterns come first, and those of each kind are
in the order of the routes. -/
theorem entries_foldl_add {es : List (Entry RouteInfo)} (lists : List.Forall₂ c.Lists c.routes es) :
    (es.foldl Router.add (.empty c.options)).entries =
      es.filter (·.isPlain) ++ es.filter (!·.isPlain) := by
  have plain : ∀ e ∈ es, e.pattern.plain = e.isPlain := by
    intro e member
    obtain ⟨s, -, here⟩ := exists_related lists.flip member
    exact here.plain
  have dynamic : ∀ e ∈ es, (!e.pattern.plain) = !e.isPlain :=
    fun e member => congrArg (!·) (plain e member)
  rw [Router.foldl_add, Router.entries, List.filter_congr plain, List.filter_congr dynamic]
  rfl

/-- A configuration fails for the first of its routes that is rejected behind the prefix. Otherwise its
router has one entry for each route, those of plain patterns first, each kind in the order of the
routes. -/
theorem router_lists (c : Config) :
    ((∃ e, c.router = .error e) ↔ ∃ s ∈ c.routes, ∃ e, c.compile s = .error e) ∧
    (∀ e, c.router = .error e ↔ ∃ before s after, c.routes = before ++ s :: after ∧
      (∀ s' ∈ before, ∃ p, c.compile s' = .ok p) ∧ c.compile s = .error e) ∧
    ((∀ s ∈ c.routes, ∃ p, c.compile s = .ok p) → ∃ r es, c.router = .ok r ∧
      List.Forall₂ c.Lists c.routes es ∧
      r.entries = es.filter (·.isPlain) ++ es.filter (!·.isPlain)) := by
  refine ⟨exists_router_eq_error_iff, fun e => router_eq_error_iff, fun compiled => ?_⟩
  -- Every route has its entry, so the table is what comes of adding these.
  obtain ⟨es, each⟩ := exists_mapM_eq_ok fun s member => exists_entry_iff.2 (compiled s member)
  have lists : List.Forall₂ c.Lists c.routes es :=
    (mapM_eq_ok_iff.1 each).imp fun _ _ => lists_of_entry
  have made : c.router = .ok (es.foldl Router.add (.empty c.options)) := by
    rw [router_eq, each]
    rfl
  exact ⟨_, es, made, lists, entries_foldl_add lists⟩

/-- A route without a name before a plain one that has a name and the prefix already. -/
theorem router_lists_mounted : ∃ (c : Config) (r : Router RouteInfo) (es : List (Entry RouteInfo)),
    c.mount = some "/app".toList ∧
    c.routes = [⟨"/:id".toList, none, .empty⟩, ⟨"/app/home".toList, some "start".toList, .empty⟩] ∧
    c.router = .ok r ∧ List.Forall₂ c.Lists c.routes es ∧
    r.entries = es.filter (·.isPlain) ++ es.filter (!·.isPlain) ∧
    r.entries.map (fun e => (e.pattern.text, e.info.name)) =
      [("/app/home".toList, "start".toList), ("/app/:id".toList, "/:id".toList)] := by
  let c : Config := {
    mount := some "/app".toList
    routes := [⟨"/:id".toList, none, .empty⟩, ⟨"/app/home".toList, some "start".toList, .empty⟩] }
  have evaluated : (c.routes.all fun s => (c.compile s).toOption.isSome) = true ∧
      c.router.toOption.map (·.entries.map fun e => (e.pattern.text, e.info.name)) =
        some [("/app/home".toList, "start".toList), ("/app/:id".toList, "/:id".toList)] := by
    decide +kernel
  have compiled : ∀ s ∈ c.routes, ∃ p, c.compile s = .ok p := by
    intro s member
    obtain ⟨p, found⟩ := Option.isSome_iff_exists.1 (List.all_eq_true.1 evaluated.1 s member)
    exact ⟨p, eq_ok_of_toOption found⟩
  obtain ⟨r, es, made, lists, entries⟩ := (router_lists c).2.2 compiled
  have shown := evaluated.2
  rw [made] at shown
  exact ⟨c, r, es, rfl, rfl, made, lists, entries, Option.some.inj shown⟩

end Config

end RoutePattern
