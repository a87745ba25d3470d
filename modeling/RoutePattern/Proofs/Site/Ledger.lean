import Mathlib.Data.List.Forall2
import RoutePattern.Proofs.Pattern.Compiled
import RoutePattern.Site

/-! # Tables of routers over whole runs

A ledger tells what a run has done to one router: the options that count from now on, and the
registrations that succeeded. Every step keeps the table of each router in line with its ledger
(`Recorded.step`), so at the end of any run a table holds the entries of its ledger, those of plain
patterns first, and answers with the first one that matches (`exists_ledger_of_run`).
-/

namespace RoutePattern

variable {M : Type}

/-- A registration as it was made: the text with the prefix of that time, and the options of that
time. -/
structure Registration (M : Type) where
  text : Text
  options : Options
  info : M

/-- The entry holds what was registered. -/
structure Registration.Yields (r : Registration M) (e : Entry M) : Prop where
  compiled : Pattern.forUrl r.options r.text = .ok e.pattern
  text : e.pattern.text = r.text
  info : e.info = r.info

structure Ledger (M : Type) where
  /-- The options of the registrations to come. -/
  options : Options
  /-- The registrations that succeeded, the first one first. -/
  log : List (Registration M)

/-- The registration is logged if its pattern compiles. -/
def Ledger.register (l : Ledger M) (text : Text) (info : M) : Ledger M :=
  match Pattern.forUrl l.options text with
  | .ok _ => { l with log := l.log ++ [⟨text, l.options, info⟩] }
  | .error _ => l

/-- The pattern of the entry has neither parameters nor groups. -/
def Entry.isPlain (e : Entry M) : Bool := Token.arePlain e.pattern.tokens

/-- What resolving a path must answer: what the first entry that matches makes of it. -/
def Entry.FirstAnswer (es : List (Entry M)) (path : Text) : Option (Resolved M) → Prop
  | none => ∀ e ∈ es, e.pattern.match? path = none
  | some r => ∃ earlier e later found, es = earlier ++ e :: later ∧
      (∀ e' ∈ earlier, e'.pattern.match? path = none) ∧ e.pattern.match? path = some found ∧
      r = ⟨e.pattern.text, path, e.info, found.params⟩

namespace Site

/-- The ledgers of all routers behind a step: a copy goes on from the ledger of its origin, and a
router that shares no more than a prefix starts a new one. -/
def ledgersBehind (s : Site M) (ls : List (Ledger M)) : Step M → List (Ledger M)
  | .mount holder options => if (s.cell? holder).isSome then ls ++ [⟨options, []⟩] else ls
  | .copy n => ls ++ ls[n]?.toList
  | .setOptions n options => ls.modify n fun l => { l with options }
  | .register n pattern info =>
    match s.read? (.router n) with
    | some p => ls.modify n (·.register (p.apply pattern) info)
    | none => ls
  | .fresh _ | .share _ | .set _ _ | .get _ | .apply _ _ | .resolve _ _ | .build _ _ _
  | .entries _ => ls

/-- The ledgers of all routers behind a run. -/
def ledgers (s : Site M) (ls : List (Ledger M)) : List (Step M) → List (Ledger M)
  | [] => ls
  | t :: ts => (s.step t).1.ledgers (s.ledgersBehind ls t) ts

end Site

/-! ## One table -/

theorem Pattern.of_forUrl {o : Options} {text : Text} {p : Pattern}
    (compiled : forUrl o text = .ok p) :
    p.text = text ∧ p.plain = Token.arePlain p.tokens := by
  obtain ⟨ts, -, compiled⟩ := bind_eq_ok_iff.1 compiled
  have tokens : p.tokens = ts := (ofTokens_of compiled).tokens
  simp only [ofTokens, Matcher.ofTokens, Matcher.ofSource, bind_eq_ok_iff, Except.ok.injEq]
    at compiled
  obtain ⟨m, ⟨program, -, rfl⟩, b, -, rfl⟩ := compiled
  exact ⟨rfl, by rw [tokens]; rfl⟩

namespace Router

/-- The router has the options of the ledger and its entries. -/
structure Keeps (l : Ledger M) (r : Router M) : Prop where
  options : r.options = l.options
  table : ∃ es, List.Forall₂ Registration.Yields l.log es ∧
    r.plain = es.filter (·.isPlain) ∧ r.dynamic = es.filter (!·.isPlain)

theorem keeps_empty (o : Options) : (empty o : Router M).Keeps ⟨o, []⟩ :=
  ⟨rfl, [], .nil, rfl, rfl⟩

theorem Keeps.withOptions {l : Ledger M} {r : Router M} (keeps : r.Keeps l) (options : Options) :
    (r.withOptions options).Keeps { l with options } :=
  ⟨rfl, keeps.table⟩

theorem register_eq (r : Router M) (p : Prefix) (pattern : Text) (info : M) :
    r.register p pattern info =
      match Pattern.forUrl r.options (p.apply pattern) with
      | .ok compiled => .ok (r.add ⟨compiled, info⟩)
      | .error e => .error e := by
  unfold register
  cases Pattern.forUrl r.options (p.apply pattern) <;> rfl

/-- A pattern that compiles is added to the table and to the ledger. -/
theorem Keeps.add {l : Ledger M} {r : Router M} (keeps : r.Keeps l) {text : Text} {info : M}
    {compiled : Pattern} (succeeds : Pattern.forUrl l.options text = .ok compiled) :
    (r.add ⟨compiled, info⟩).Keeps (l.register text info) := by
  obtain ⟨es, yields, plain, dynamic⟩ := keeps.table
  obtain ⟨same, known⟩ := Pattern.of_forUrl succeeds
  have logged : l.register text info = { l with log := l.log ++ [⟨text, l.options, info⟩] } := by
    simp only [Ledger.register, succeeds]
  have entry : Registration.Yields ⟨text, l.options, info⟩ ⟨compiled, info⟩ := ⟨succeeds, same, rfl⟩
  have sort : (⟨compiled, info⟩ : Entry M).isPlain = compiled.plain := known.symm
  rw [logged]
  refine ⟨?_, es ++ [⟨compiled, info⟩], List.rel_append yields (.cons entry .nil), ?_, ?_⟩
  · unfold Router.add
    split <;> exact keeps.options
  · cases kind : compiled.plain <;> simp [Router.add, kind, sort, plain]
  · cases kind : compiled.plain <;> simp [Router.add, kind, sort, dynamic]

/-- A table holds as many entries as there are registrations. -/
theorem Keeps.size {l : Ledger M} {r : Router M} (keeps : r.Keeps l) : r.size = l.log.length := by
  obtain ⟨es, yields, plain, dynamic⟩ := keeps.table
  rw [yields.length_eq, Router.size, plain, dynamic]
  exact es.length_eq_length_filter_add (·.isPlain) |>.symm

/-- Resolving answers what the first entry that matches makes of the path. -/
theorem resolve?_firstAnswer (r : Router M) (p : Prefix) (path : Text) :
    Entry.FirstAnswer r.entries (p.apply path) (r.resolve? p path) := by
  cases found : r.resolve? p path with
  | none =>
    intro e member
    simpa [Entry.resolve?] using List.findSome?_eq_none_iff.1 found e member
  | some answer =>
    obtain ⟨earlier, e, later, split, here, before⟩ := List.findSome?_eq_some_iff.1 found
    obtain ⟨match_, matched, same⟩ := Option.map_eq_some_iff.1 here
    exact ⟨earlier, e, later, match_, split,
      fun e' member => by simpa [Entry.resolve?] using before e' member, matched, same.symm⟩

end Router

/-! ## All tables of a site -/

namespace Site

/-- Every holder has a cell, and every table is in line with its ledger. -/
structure Recorded (s : Site M) (ls : List (Ledger M)) : Prop where
  handles : ∀ c ∈ s.handles, c < s.cells.length
  routers : ∀ m ∈ s.routers, m.cell < s.cells.length
  tables : List.Forall₂ (fun m l => m.router.Keeps l) s.routers ls

section Recorded

variable {s : Site M} {ls : List (Ledger M)}

theorem recorded_empty : (empty : Site M).Recorded [] :=
  ⟨by simp [empty], by simp [empty], .nil⟩

theorem Recorded.cell_lt (recorded : s.Recorded ls) {holder : Holder} {c : Nat}
    (held : s.cell? holder = some c) : c < s.cells.length := by
  cases holder with
  | handle n => exact recorded.handles c (List.mem_of_getElem? held)
  | router n =>
    obtain ⟨m, there, rfl⟩ := Option.map_eq_some_iff.1 held
    exact recorded.routers m (List.mem_of_getElem? there)

/-- Every router has a ledger and a prefix to read. -/
theorem Recorded.router (recorded : s.Recorded ls) {n : Nat} {m : Mounted M}
    (there : s.routers[n]? = some m) :
    ∃ l p, ls[n]? = some l ∧ m.router.Keeps l ∧ s.read? (.router n) = some p ∧
      s.mounted? n = some (m, p) := by
  obtain ⟨inside, same⟩ := List.getElem?_eq_some_iff.1 there
  have inside' : n < ls.length := by rwa [← recorded.tables.length_eq]
  have here : m.cell < s.cells.length := recorded.routers m (List.mem_of_getElem? there)
  refine ⟨ls[n], s.cells[m.cell], List.getElem?_eq_getElem inside', ?_, ?_, ?_⟩
  · rw [← same]
    exact recorded.tables.get inside inside'
  · simp [read?, cell?, there, here]
  · simp [mounted?, there, here]

/-- A site whose tables stay and whose cells stay as many. -/
theorem Recorded.cells (recorded : s.Recorded ls) {s' : Site M} (handles : s'.handles = s.handles)
    (routers : s'.routers = s.routers) (cells : s.cells.length ≤ s'.cells.length) :
    s'.Recorded ls where
  handles := fun c member => (recorded.handles c (handles ▸ member)).trans_le cells
  routers := fun m member => (recorded.routers m (routers ▸ member)).trans_le cells
  tables := by rw [routers]; exact recorded.tables

theorem Recorded.addHandle (recorded : s.Recorded ls) {c : Nat} (held : c < s.cells.length) :
    (s.addHandle c).1.Recorded ls where
  handles := by
    intro c' member
    rcases List.mem_append.1 member with old | new
    · exact recorded.handles c' old
    · exact List.mem_singleton.1 new ▸ held
  routers := recorded.routers
  tables := recorded.tables

theorem Recorded.addRouter (recorded : s.Recorded ls) {m : Mounted M} {l : Ledger M}
    (held : m.cell < s.cells.length) (keeps : m.router.Keeps l) :
    (s.addRouter m).1.Recorded (ls ++ [l]) where
  handles := recorded.handles
  routers := by
    intro m' member
    rcases List.mem_append.1 member with old | new
    · exact recorded.routers m' old
    · exact List.mem_singleton.1 new ▸ held
  tables := List.rel_append recorded.tables (.cons keeps .nil)

theorem forall₂_set_modify {α β : Type} {R : α → β → Prop} {as : List α} {bs : List β}
    (related : List.Forall₂ R as bs) {n : Nat} {a : α} {f : β → β}
    (here : ∀ b, bs[n]? = some b → R a (f b)) : List.Forall₂ R (as.set n a) (bs.modify n f) := by
  induction related generalizing n with
  | nil => simp
  | cons first rest ih =>
    cases n with
    | zero => exact .cons (here _ rfl) rest
    | succ n => exact .cons first (ih here)

/-- A router and its ledger change together, at one number. -/
theorem Recorded.setRouter (recorded : s.Recorded ls) {n : Nat} {m : Mounted M} (m' : Mounted M)
    (there : s.routers[n]? = some m) (cell : m'.cell = m.cell) {f : Ledger M → Ledger M}
    (keeps : ∀ l, m.router.Keeps l → m'.router.Keeps (f l)) :
    (s.setRouter n m').Recorded (ls.modify n f) where
  handles := recorded.handles
  routers := by
    intro m'' member
    rcases List.mem_or_eq_of_mem_set member with old | rfl
    · exact recorded.routers m'' old
    · rw [cell]
      exact recorded.routers m (List.mem_of_getElem? there)
  tables := by
    refine forall₂_set_modify recorded.tables fun l listed => keeps l ?_
    obtain ⟨l', -, found, kept, -⟩ := recorded.router there
    obtain rfl : l' = l := Option.some.inj (found.symm.trans listed)
    exact kept

/-- What registering does where the router exists: it answers the size of the table and why the
pattern was refused, and a refused pattern leaves the site as it is. -/
theorem step_register {n : Nat} {m : Mounted M} {p : Prefix}
    (mounted : s.mounted? n = some (m, p)) (pattern : Text) (info : M) :
    s.step (.register n pattern info) =
      match Pattern.forUrl m.router.options (p.apply pattern) with
      | .ok compiled =>
        (s.setRouter n { m with router := m.router.add ⟨compiled, info⟩ },
          .registered (m.router.size + 1) none)
      | .error e => (s, .registered m.router.size (some e)) := by
  simp only [step, step?, mounted, Option.bind_eq_bind, Option.bind_some, Router.register_eq]
  cases Pattern.forUrl m.router.options (p.apply pattern) with
  | ok compiled => simp [Router.size_add]
  | error e => rfl

theorem Recorded.register (recorded : s.Recorded ls) (n : Nat) (pattern : Text) (info : M) :
    (s.step (.register n pattern info)).1.Recorded
      (s.ledgersBehind ls (.register n pattern info)) := by
  cases there : s.routers[n]? with
  | none =>
    -- Nobody reads a prefix for a router that does not exist.
    have unread : s.read? (.router n) = none := by simp [read?, cell?, there]
    have unknown : s.mounted? n = none := by simp [mounted?, there]
    simpa [step, step?, unknown, ledgersBehind, unread] using recorded
  | some m =>
    obtain ⟨l, p, listed, keeps, read, mounted⟩ := recorded.router there
    rw [step_register mounted]
    simp only [ledgersBehind, read]
    cases compiles : Pattern.forUrl m.router.options (p.apply pattern) with
    | ok compiled =>
      exact recorded.setRouter { m with router := m.router.add ⟨compiled, info⟩ } there rfl
        fun l keeps => keeps.add (by rw [← keeps.options, compiles])
    | error e =>
      -- The ledger stays as well.
      have same : l.register (p.apply pattern) info = l := by
        simp only [Ledger.register, ← keeps.options, compiles]
      have unchanged : ls.modify n (·.register (p.apply pattern) info) = ls := by
        refine List.ext_getElem? fun i => ?_
        rw [List.getElem?_modify]
        by_cases here : n = i
        · subst here
          simp [listed, same]
        · simp [here]
      simpa [unchanged] using recorded

/-- Every step keeps the tables in line with the ledgers. -/
theorem Recorded.step (recorded : s.Recorded ls) (t : Step M) :
    (s.step t).1.Recorded (s.ledgersBehind ls t) := by
  cases t with
  | fresh value =>
    have added : (s.addCell ⟨value⟩).Recorded ls :=
      recorded.cells rfl rfl (by simp [addCell])
    exact added.addHandle (by simp [addCell])
  | share holder =>
    cases held : s.cell? holder with
    | none => simpa [Site.step, step?, held, ledgersBehind] using recorded
    | some c =>
      simpa [Site.step, step?, held, ledgersBehind] using recorded.addHandle (recorded.cell_lt held)
  | set holder value =>
    cases held : s.cell? holder with
    | none => simpa [Site.step, step?, held, ledgersBehind] using recorded
    | some c =>
      have written : Recorded { s with cells := s.cells.set c ⟨value⟩ } ls :=
        recorded.cells rfl rfl (by simp)
      simp only [Site.step, step?, held, Option.bind_eq_bind, Option.bind_some]
      cases Site.read? { s with cells := s.cells.set c ⟨value⟩ } holder with
      | none => exact recorded
      | some p => exact written
  | get holder =>
    cases read : s.read? holder <;> simpa [Site.step, step?, read, ledgersBehind] using recorded
  | apply holder path =>
    cases read : s.read? holder <;> simpa [Site.step, step?, read, ledgersBehind] using recorded
  | mount holder options =>
    cases held : s.cell? holder with
    | none => simpa [Site.step, step?, held, ledgersBehind] using recorded
    | some c =>
      have mounted := recorded.addRouter (m := ⟨c, .empty options⟩) (recorded.cell_lt held)
        (Router.keeps_empty options)
      simpa [Site.step, step?, held, ledgersBehind] using mounted
  | copy n =>
    cases there : s.routers[n]? with
    | none =>
      have absent : ls[n]? = none := by
        rw [List.getElem?_eq_none_iff] at there ⊢
        rwa [← recorded.tables.length_eq]
      simpa [Site.step, step?, there, ledgersBehind, absent] using recorded
    | some m =>
      obtain ⟨l, -, listed, keeps, -⟩ := recorded.router there
      have copied := recorded.addRouter (recorded.routers m (List.mem_of_getElem? there)) keeps
      simpa [Site.step, step?, there, ledgersBehind, listed] using copied
  | setOptions n options =>
    cases there : s.routers[n]? with
    | none =>
      have outside : ls.length ≤ n := by
        rw [← recorded.tables.length_eq]
        exact List.getElem?_eq_none_iff.1 there
      simpa [Site.step, step?, there, ledgersBehind, List.modify_eq_self outside] using recorded
    | some m =>
      have changed := recorded.setRouter { m with router := m.router.withOptions options }
        there rfl fun l keeps => keeps.withOptions options
      simpa [Site.step, step?, there, ledgersBehind] using changed
  | register n pattern info => exact recorded.register n pattern info
  | resolve n path =>
    cases mounted : s.mounted? n <;> simpa [Site.step, step?, mounted, ledgersBehind] using recorded
  | build n pattern data =>
    cases mounted : s.mounted? n <;> simpa [Site.step, step?, mounted, ledgersBehind] using recorded
  | entries n =>
    cases there : s.routers[n]? <;> simpa [Site.step, step?, there, ledgersBehind] using recorded

theorem Recorded.run (recorded : s.Recorded ls) (ts : List (Step M)) :
    (s.run ts).1.Recorded (s.ledgers ls ts) := by
  induction ts generalizing s ls with
  | nil => exact recorded
  | cons t ts ih => exact ih (recorded.step t)

end Recorded

/-! ## At the end of a run -/

/-- At the end of any run, the entries of a router are those of its ledger, the plain ones first, and a
path resolves to what the first of them that matches makes of it. A registration that fails then leaves
everything as it is. -/
theorem exists_ledger_of_run (steps : List (Step M)) {s : Site M} (ran : (empty.run steps).1 = s)
    {n : Nat} {m : Mounted M} (there : s.routers[n]? = some m) :
    ∃ l p es, (empty.ledgers [] steps)[n]? = some l ∧ s.read? (.router n) = some p ∧
      List.Forall₂ Registration.Yields l.log es ∧
      s.step (.entries n) = (s, .entries (es.filter (·.isPlain) ++ es.filter (!·.isPlain))) ∧
      m.router.size = l.log.length ∧
      (∀ pattern info, match Pattern.forUrl l.options (p.apply pattern) with
        | .ok _ => (s.step (.register n pattern info)).2 = .registered (l.log.length + 1) none
        | .error e => s.step (.register n pattern info) = (s, .registered l.log.length (some e))) ∧
      ∀ path, ∃ answer, s.step (.resolve n path) = (s, .resolved answer) ∧
        Entry.FirstAnswer (es.filter (·.isPlain) ++ es.filter (!·.isPlain)) (p.apply path)
          answer := by
  have recorded : s.Recorded (empty.ledgers [] steps) := ran ▸ recorded_empty.run steps
  obtain ⟨l, p, listed, keeps, read, mounted⟩ := recorded.router there
  obtain ⟨es, yields, plain, dynamic⟩ := keeps.table
  have entries : m.router.entries = es.filter (·.isPlain) ++ es.filter (!·.isPlain) := by
    rw [Router.entries, plain, dynamic]
  refine ⟨l, p, es, listed, read, yields, ?_, keeps.size, fun pattern info => ?_, fun path => ?_⟩
  · simp [step, step?, there, entries]
  · rw [step_register mounted, ← keeps.options, ← keeps.size]
    cases Pattern.forUrl m.router.options (p.apply pattern) <;> rfl
  · refine ⟨m.router.resolve? p path, by simp [step, step?, mounted], ?_⟩
    rw [← entries]
    exact m.router.resolve?_firstAnswer p path

/-- A copied router, a pattern that fails, and a change of the prefix and of the options in between. -/
def mixedSteps : List (Step Nat) :=
  [.fresh "/app".toList, .mount (.handle 0) {}, .register 0 "/:id".toList 1, .copy 0,
    .register 0 "(".toList 2, .set (.router 1) "/v2".toList, .setOptions 0 { sensitive := true },
    .register 0 "/home".toList 3]

theorem exists_ledger_of_run_mixed : ∃ (m : Mounted Nat) (l : Ledger Nat) (p : Prefix)
    (es : List (Entry Nat)),
    (empty.run mixedSteps).1.routers[0]? = some m ∧
      (empty.ledgers [] mixedSteps)[0]? = some l ∧
      l.log.map (·.text) = ["/app/:id".toList, "/v2/home".toList] ∧
      List.Forall₂ Registration.Yields l.log es ∧ m.router.size = 2 ∧
      ∀ path, ∃ answer, (empty.run mixedSteps).1.step (.resolve 0 path) =
          ((empty.run mixedSteps).1, .resolved answer) ∧
        Entry.FirstAnswer (es.filter (·.isPlain) ++ es.filter (!·.isPlain)) (p.apply path)
          answer := by
  have present : ((empty.run mixedSteps).1.routers[0]?).isSome = true := by decide +kernel
  have logged : ((empty.ledgers [] mixedSteps)[0]?).map (·.log.map (·.text)) =
      some ["/app/:id".toList, "/v2/home".toList] := by decide +kernel
  obtain ⟨m, there⟩ := Option.isSome_iff_exists.1 present
  obtain ⟨l, p, es, listed, -, yields, -, size, -, resolved⟩ :=
    exists_ledger_of_run mixedSteps rfl there
  rw [listed, Option.map_some, Option.some.injEq] at logged
  have two : l.log.length = 2 := by simpa using congrArg List.length logged
  exact ⟨m, l, p, es, there, listed, logged, yields, size.trans two, resolved⟩

end Site

end RoutePattern
