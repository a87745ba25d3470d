import RoutePattern.Proofs.Site.Ledger

/-! # Sites do not depend on codecs

The patterns of a router have codecs of their own, so the codecs that its options name count for nothing
(`Pattern.forUrl_uncoded`). Leaving them out commutes with every step (`Site.step_uncoded`) and so with
every run, and two runs whose options differ in nothing else give the same answers
(`Site.answers_of_uncoded`).
-/

namespace RoutePattern

variable {M : Type}

/-! ## Patterns -/

/-- Options without the codecs that they name. -/
def Options.uncoded (o : Options) : Options := { o with encode := .identity, decode := .identity }

theorem Options.segment_uncoded (o : Options) : o.uncoded.segment = o.segment := rfl

/-- Reading a pattern looks at the delimiters and the prefixes alone. -/
theorem Token.ofPhrases_uncoded (o : Options) (ordinal : Nat) (pending : Text) (ps : List Phrase) :
    ofPhrases o.uncoded ordinal pending ps = ofPhrases o ordinal pending ps := by
  fun_induction ofPhrases o ordinal pending ps with
  | case1 => rw [ofPhrases]
  | case2 _ _ _ _ _ _ _ _ _ found held ih =>
    simp only [ofPhrases, o.segment_uncoded, found, ih]
    exact if_pos held
  | case3 _ _ _ _ _ _ _ _ _ found free ih =>
    simp only [ofPhrases, o.segment_uncoded, found, ih]
    exact if_neg free
  | case4 _ _ _ _ alone ih =>
    -- No parameter takes the character along.
    rw [ofPhrases, ih]
    exact alone
  | case5 _ _ _ _ ih | case7 _ _ _ _ _ _ ih => rw [ofPhrases, ih]
  | case6 _ _ _ _ _ _ _ _ found ih | case8 _ _ _ _ _ _ _ _ _ _ found ih =>
    simp only [ofPhrases, o.segment_uncoded, found, ih]

theorem Token.ofPattern?_uncoded (o : Options) (text : Text) :
    ofPattern? o.uncoded text = ofPattern? o text := by
  simp only [ofPattern?, ofPhrases_uncoded]

/-- A pattern of URL paths is the same whatever codecs the options name. -/
theorem Pattern.forUrl_uncoded (o : Options) (text : Text) : forUrl o.uncoded text = forUrl o text := by
  rw [forUrl, forUrl, Token.ofPattern?_uncoded]
  rfl

/-! ## Leaving codecs out -/

def Router.uncoded (r : Router M) : Router M := { r with options := r.options.uncoded }

def Mounted.uncoded (m : Mounted M) : Mounted M := { m with router := m.router.uncoded }

def Site.uncoded (s : Site M) : Site M := { s with routers := s.routers.map Mounted.uncoded }

/-- A step without the codecs of the options that it gives to a router. -/
def Step.uncoded : Step M → Step M
  | .mount holder options => .mount holder options.uncoded
  | .setOptions n options => .setOptions n options.uncoded
  | t => t

/-- An answer without the codecs of the options that it shows. -/
def Answer.uncoded : Answer M → Answer M
  | .options o => .options o.uncoded
  | a => a

theorem Router.register_uncoded (r : Router M) (p : Prefix) (pattern : Text) (info : M) :
    r.uncoded.register p pattern info = (r.register p pattern info).map Router.uncoded := by
  rw [register_eq, register_eq, uncoded, Pattern.forUrl_uncoded]
  cases Pattern.forUrl r.options (p.apply pattern) with
  | error e => rfl
  | ok compiled =>
    simp only [add, Except.map]
    split <;> rfl

namespace Site

variable {t : Step M} {ts ts' : List (Step M)}

theorem getElem?_uncoded (s : Site M) (n : Nat) :
    s.uncoded.routers[n]? = s.routers[n]?.map Mounted.uncoded := List.getElem?_map

theorem cell?_uncoded (s : Site M) (h : Holder) : s.uncoded.cell? h = s.cell? h := by
  cases h with
  | handle n => rfl
  | router n =>
    rw [cell?, cell?, getElem?_uncoded, Option.map_map]
    rfl

theorem read?_uncoded (s : Site M) (h : Holder) : s.uncoded.read? h = s.read? h := by
  rw [read?, read?, cell?_uncoded]
  rfl

theorem mounted?_uncoded (s : Site M) (n : Nat) :
    s.uncoded.mounted? n = (s.mounted? n).map fun (m, p) => (m.uncoded, p) := by
  rw [mounted?, mounted?, getElem?_uncoded]
  cases there : s.routers[n]? with
  | none => rfl
  | some m =>
    simp only [Option.map_some, Option.bind_eq_bind, Option.bind_some]
    cases read : s.cells[m.cell]? <;> simp [uncoded, Mounted.uncoded, read]

theorem addRouter_uncoded (s : Site M) (m : Mounted M) :
    s.uncoded.addRouter m.uncoded = ((s.addRouter m).1.uncoded, (s.addRouter m).2.uncoded) := by
  simp [addRouter, uncoded, Answer.uncoded]

theorem setRouter_uncoded (s : Site M) (n : Nat) (m : Mounted M) :
    s.uncoded.setRouter n m.uncoded = (s.setRouter n m).uncoded := by
  simp [setRouter, uncoded, List.map_set]

/-- A step does the same without the codecs, and gives the same answer. -/
theorem step_uncoded (s : Site M) (t : Step M) :
    s.uncoded.step t.uncoded = ((s.step t).1.uncoded, (s.step t).2.uncoded) := by
  cases t with
  | fresh value => rfl
  | share holder =>
    simp only [step, step?, Step.uncoded, cell?_uncoded]
    cases s.cell? holder <;> rfl
  | set holder value =>
    simp only [step, step?, Step.uncoded, cell?_uncoded]
    cases s.cell? holder with
    | none => rfl
    | some c =>
      -- The holder is read again in the changed site.
      have written : read? { s.uncoded with cells := s.uncoded.cells.set c ⟨value⟩ } holder =
          read? { s with cells := s.cells.set c ⟨value⟩ } holder :=
        read?_uncoded { s with cells := s.cells.set c ⟨value⟩ } holder
      simp only [Option.bind_eq_bind, Option.bind_some, written]
      cases read? { s with cells := s.cells.set c ⟨value⟩ } holder <;> rfl
  | get holder =>
    simp only [step, step?, Step.uncoded, read?_uncoded]
    cases s.read? holder <;> rfl
  | apply holder path =>
    simp only [step, step?, Step.uncoded, read?_uncoded]
    cases s.read? holder <;> rfl
  | mount holder options =>
    simp only [step, step?, Step.uncoded, cell?_uncoded]
    cases s.cell? holder with
    | none => rfl
    | some c => exact s.addRouter_uncoded ⟨c, .empty options⟩
  | copy n =>
    simp only [step, step?, Step.uncoded, getElem?_uncoded]
    cases s.routers[n]? with
    | none => rfl
    | some m => exact s.addRouter_uncoded m
  | setOptions n options =>
    simp only [step, step?, Step.uncoded, getElem?_uncoded]
    cases s.routers[n]? with
    | none => rfl
    | some m =>
      exact congrArg (·, Answer.options options.uncoded)
        (s.setRouter_uncoded n { m with router := m.router.withOptions options })
  | register n pattern info =>
    simp only [step, step?, Step.uncoded, mounted?_uncoded]
    cases s.mounted? n with
    | none => rfl
    | some mounted =>
      -- A pattern is refused by both or by neither, and what is added is the same.
      obtain ⟨m, p⟩ := mounted
      simp only [Option.map_some, Option.bind_eq_bind, Option.bind_some, Mounted.uncoded,
        Router.register_uncoded]
      cases m.router.register p pattern info with
      | error e => rfl
      | ok router =>
        exact congrArg (·, Answer.registered router.size none)
          (s.setRouter_uncoded n { m with router })
  | resolve n path =>
    simp only [step, step?, Step.uncoded, mounted?_uncoded]
    cases s.mounted? n <;> rfl
  | build n pattern data =>
    simp only [step, step?, Step.uncoded, mounted?_uncoded]
    cases s.mounted? n <;> rfl
  | entries n =>
    simp only [step, step?, Step.uncoded, getElem?_uncoded]
    cases s.routers[n]? <;> rfl

theorem run_uncoded (s : Site M) (ts : List (Step M)) :
    s.uncoded.run (ts.map Step.uncoded) =
      ((s.run ts).1.uncoded, (s.run ts).2.map Answer.uncoded) := by
  induction ts generalizing s with
  | nil => rfl
  | cons t ts ih => simp only [List.map_cons, run, step_uncoded, ih]

/-! ## Answers -/

/-- Only setting options shows codecs. -/
theorem uncoded_answer (s : Site M) (others : ∀ n o, t ≠ .setOptions n o) :
    (s.step t).2.uncoded = (s.step t).2 := by
  cases t with
  | setOptions n o => exact absurd rfl (others n o)
  | fresh value => rfl
  | share holder | mount holder options =>
    simp only [step, step?]
    cases s.cell? holder <;> rfl
  | set holder value =>
    simp only [step, step?]
    cases s.cell? holder with
    | none => rfl
    | some c =>
      simp only [Option.bind_eq_bind, Option.bind_some]
      cases read? { s with cells := s.cells.set c ⟨value⟩ } holder <;> rfl
  | get holder | apply holder path =>
    simp only [step, step?]
    cases s.read? holder <;> rfl
  | copy n | entries n =>
    simp only [step, step?]
    cases s.routers[n]? <;> rfl
  | register n pattern info =>
    cases mounted : s.mounted? n with
    | none => simp [step, step?, mounted, Answer.uncoded]
    | some here =>
      rw [step_register mounted]
      cases Pattern.forUrl here.1.router.options (here.2.apply pattern) <;> rfl
  | resolve n path | build n pattern data =>
    simp only [step, step?]
    cases s.mounted? n <;> rfl

theorem uncoded_getElem?_run (s : Site M) {i : Nat} (here : ts[i]? = some t)
    (others : ∀ n o, t ≠ .setOptions n o) :
    (s.run ts).2[i]?.map Answer.uncoded = (s.run ts).2[i]? := by
  induction ts generalizing s i with
  | nil => cases here
  | cons u ts ih =>
    cases i with
    | zero =>
      obtain rfl : u = t := Option.some.inj here
      exact congrArg some (s.uncoded_answer others)
    | succ i => exact ih (s.step u).1 here

/-- Two runs of the same steps, whose options differ in the codecs that they name and in nothing else.
Whatever the codecs are, all answers are the same but for the codecs that setting options shows, and in
the end each router has as many entries as its counterpart, the same ones. -/
theorem answers_of_uncoded (same : ts.map Step.uncoded = ts'.map Step.uncoded) :
    (∀ (i : Nat) (t : Step M), ts[i]? = some t → (∀ n o, t ≠ .setOptions n o) →
      (empty.run ts).2[i]? = (empty.run ts').2[i]?) ∧
    (empty.run ts).2.map Answer.uncoded = (empty.run ts').2.map Answer.uncoded ∧
    ∀ n : Nat, (empty.run ts).1.routers[n]?.map (fun m => (m.router.size, m.router.entries)) =
      (empty.run ts').1.routers[n]?.map (fun m => (m.router.size, m.router.entries)) := by
  have runs := (run_uncoded empty ts).symm.trans ((congrArg _ same).trans (run_uncoded empty ts'))
  obtain ⟨sites, answers⟩ := Prod.mk.inj runs
  refine ⟨fun i t here others => ?_, answers, fun n => ?_⟩
  · -- The other run has a step of the same kind here.
    have there := congrArg (·[i]?) same
    simp only [List.getElem?_map, here, Option.map_some] at there
    obtain ⟨t', here', kind⟩ := Option.map_eq_some_iff.1 there.symm
    have others' : ∀ n o, t' ≠ .setOptions n o := by
      rintro n o rfl
      cases t with
      | setOptions n' o' => exact others n' o' rfl
      | _ => cases kind
    have shown := congrArg (·[i]?) answers
    simp only [List.getElem?_map] at shown
    rwa [uncoded_getElem?_run empty here others, uncoded_getElem?_run empty here' others'] at shown
  · have kept (s : Site M) : s.uncoded.routers[n]?.map (fun m => (m.router.size, m.router.entries)) =
        s.routers[n]?.map (fun m => (m.router.size, m.router.entries)) := by
      rw [getElem?_uncoded, Option.map_map]
      rfl
    rw [← kept, sites, kept]

/-- A pattern with a space, whose literal text a codec could have changed, and a parameter. -/
def recodedSteps (encode decode : Codec) : List (Step Nat) :=
  [.fresh "/app".toList, .mount (.handle 0) { encode, decode }, .register 0 "/x y/:id".toList 1,
    .setOptions 0 { sensitive := true, encode }, .register 0 "/:id".toList 2,
    .resolve 0 "/x y/a%20b".toList]

theorem answers_of_uncoded_reversed : ∃ ts ts' : List (Step Nat),
    ts = recodedSteps .identity .identity ∧ ts' = recodedSteps .percent (.custom List.reverse) ∧
    ts.map Step.uncoded = ts'.map Step.uncoded ∧
    (empty.run ts).2[5]? = (empty.run ts').2[5]? ∧
    (empty.run ts).2[5]?.bind (fun | .resolved found => found | _ => none) =
      some ⟨"/app/x y/:id".toList, "/app/x y/a%20b".toList, 1,
        ⟨[(.named "id".toList, .single "a b".toList)]⟩⟩ := by
  have same : (recodedSteps .identity .identity).map Step.uncoded =
      (recodedSteps .percent (.custom List.reverse)).map Step.uncoded := rfl
  exact ⟨_, _, rfl, rfl, same, (answers_of_uncoded same).1 5 _ rfl (by simp), by decide +kernel⟩

end Site

end RoutePattern
