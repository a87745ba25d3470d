import RoutePattern.Proofs.Builder

/-! # What checking values changes

A builder that checks values goes through its tokens as one that does not, and differs from it only where
a value is refused. The two agree on a parameter whose values all pass (`param_of_passes`), and the first
value that is refused, if nothing has failed before it, is what the build fails with
(`build_of_firstRefused`). So checking only filters (`build_eq_or_firstRefused`).
-/

namespace RoutePattern

/-! ## Values and their checks -/

namespace Program

variable {p : Program} {t : Text}

theorem accepts_eq_true_iff : p.accepts t = true ↔ ∃ found, p.search t = .found found := by
  cases answer : p.search t <;> simp [accepts, find?, Outcome.found?, answer]

theorem accepts_eq_false_iff : p.accepts t = false ↔ p.search t = .nothing ∨ p.search t = .gaveUp := by
  cases answer : p.search t <;> simp [accepts, find?, Outcome.found?, answer]

end Program

/-- The texts that are given for a parameter. -/
def Params.textsFor (data : Params) (k : Key) : List Text := (data.get? k.name.text).elim [] (·.parts)

namespace Key

/-- The check of the parameter finds a match in the encoded value. -/
def Passes (o : Options) (k : Key) (value : Text) : Prop :=
  ∃ p found, Program.ofSource o k.validatorSource = .ok p ∧
    p.search (o.encode.encode value) = .found found

/-- The check of the parameter finds no match in the encoded value, or gives up. -/
def Refuses (o : Options) (k : Key) (value : Text) : Prop :=
  ∃ p, Program.ofSource o k.validatorSource = .ok p ∧
    (p.search (o.encode.encode value) = .nothing ∨ p.search (o.encode.encode value) = .gaveUp)

def refusal (o : Options) (k : Key) (value : Text) : BuildError :=
  .invalidSegment k.name.text k.fragment (o.encode.encode value)

/-- The value is the first one of the parameter that its check refuses, and the parameter takes what it
is given: a list is given to a parameter that repeats only. -/
structure RefusesFirst (o : Options) (k : Key) (data : Params) (value : Text) : Prop where
  captures : k.captures = true
  taken : ∀ ts, data.get? k.name.text = some (.repeated ts) → k.repeats = true
  first : ∃ earlier later, data.textsFor k = earlier ++ value :: later ∧
    (∀ v ∈ earlier, k.Passes o v) ∧ k.Refuses o value

variable {o : Options} {k : Key} {p : Program} {value : Text} {texts : List Text}

theorem passes_iff (compiled : Program.ofSource o k.validatorSource = .ok p) :
    k.Passes o value ↔ p.accepts (o.encode.encode value) = true := by
  simp [Passes, compiled, Program.accepts_eq_true_iff]

theorem refuses_iff (compiled : Program.ofSource o k.validatorSource = .ok p) :
    k.Refuses o value ↔ p.accepts (o.encode.encode value) = false := by
  simp [Refuses, compiled, Program.accepts_eq_false_iff]

/-- Either all values pass, or there is a first one that does not. -/
theorem forall_passes_or (compiled : Program.ofSource o k.validatorSource = .ok p) (texts : List Text) :
    (∀ v ∈ texts, k.Passes o v) ∨ ∃ earlier value later, texts = earlier ++ value :: later ∧
      (∀ v ∈ earlier, k.Passes o v) ∧ k.Refuses o value := by
  -- The first value that the program does not accept, if there is one, splits the list.
  cases found : texts.find? fun v => !p.accepts (o.encode.encode v) with
  | none =>
    refine .inl fun v member => (passes_iff compiled).2 ?_
    simpa using List.find?_eq_none.1 found v member
  | some value =>
    obtain ⟨refused, earlier, later, split, passed⟩ := List.find?_eq_some_iff_append.1 found
    refine .inr ⟨earlier, value, later, split, fun v member => (passes_iff compiled).2 ?_,
      (refuses_iff compiled).2 (by simpa using refused)⟩
    simpa using passed v member

end Key

namespace Builder

/-- The builder without its checks. -/
def unchecked (b : Builder) : Builder := { b with validate := false }

variable {o : Options} {b : Builder} {k : Key} {p : Program} {value : Text} {data : Params}

/-! ## One value -/

theorem piece_of_passes (checks : b.Under { o with validate := true })
    (compiled : Program.ofSource o k.validatorSource = .ok p) (passes : k.Passes o value) :
    b.piece k (some p) value = b.unchecked.piece k (some p) value := by
  have accepted := (Key.passes_iff compiled).1 passes
  simp [piece, segment, unchecked, checks.encode, accepted]

theorem piece_of_refuses (checks : b.Under { o with validate := true })
    (compiled : Program.ofSource o k.validatorSource = .ok p) (refuses : k.Refuses o value) :
    b.piece k (some p) value = .error (k.refusal o value) := by
  have refused := (Key.refuses_iff compiled).1 refuses
  simp only [piece, segment, checks.encode, checks.validate, Option.all_some, refused, Bool.not_false,
    Bool.and_self, if_true]
  rfl

/-! ## One parameter -/

section Param

variable {v : Option Value}

/-- Where all values pass, it makes no difference whether they are checked. -/
theorem param_of_passes (checks : b.Under { o with validate := true })
    (compiled : Program.ofSource o k.validatorSource = .ok p)
    (passes : ∀ t ∈ v.elim [] (·.parts), k.Passes o t) :
    b.param k (some p) v = b.unchecked.param k (some p) v := by
  match v with
  | none | some (.repeated []) => rfl
  | some (.single t) => exact piece_of_passes checks compiled (passes t List.mem_cons_self)
  | some (.repeated (t :: ts)) =>
    have agree : (t :: ts).mapM (b.piece k (some p)) = (t :: ts).mapM (b.unchecked.piece k (some p)) :=
      mapM_congr fun u member => piece_of_passes checks compiled (passes u member)
    simp only [param, agree]

/-- The first value that does not pass ends the build. -/
theorem param_of_refuses (checks : b.Under { o with validate := true })
    (compiled : Program.ofSource o k.validatorSource = .ok p)
    (taken : ∀ ts, v = some (.repeated ts) → k.repeats = true) {earlier later : List Text}
    (given : v.elim [] (·.parts) = earlier ++ value :: later) (passes : ∀ t ∈ earlier, k.Passes o t)
    (refuses : k.Refuses o value) : b.param k (some p) v = .error (k.refusal o value) := by
  match v with
  | none | some (.repeated []) => simp [Value.parts] at given
  | some (.single t) =>
    obtain ⟨rfl, rfl, -⟩ : earlier = [] ∧ value = t ∧ later = [] := by
      simpa [Value.parts, List.singleton_eq_append_iff] using given
    exact piece_of_refuses checks compiled refuses
  | some (.repeated (t :: ts)) =>
    replace given : t :: ts = earlier ++ value :: later := given
    -- The values before it pass, so they are written as they are without checks, which never fails.
    have before : earlier.mapM (b.piece k (some p)) = .ok _ :=
      (mapM_congr fun u member => piece_of_passes checks compiled (passes u member)).trans
        List.mapM_pure
    have failed : (t :: ts).mapM (b.piece k (some p)) = .error (k.refusal o value) := by
      rw [given]
      exact mapM_append_eq_error before (piece_of_refuses checks compiled refuses)
    simp only [param, taken _ rfl, failed]
    rfl

/-- Without checks no value is refused. -/
theorem param_unchecked_ne (b : Builder) (k : Key) (validator : Option Program) (v : Option Value)
    (name fragment segment : Text) :
    b.unchecked.param k validator v ≠ .error (.invalidSegment name fragment segment) := by
  intro failed
  match v with
  | none =>
    simp only [param] at failed
    split at failed <;> cases failed
  | some (.single t) => cases failed
  | some (.repeated []) =>
    simp only [param] at failed
    split at failed
    · cases failed
    · split at failed <;> cases failed
  | some (.repeated (t :: ts)) =>
    -- Each piece is written, whatever the value.
    have written : (t :: ts).mapM (b.unchecked.piece k validator) = .ok _ := List.mapM_pure
    simp only [param, written] at failed
    split at failed <;> cases failed

end Param

/-- A list for a parameter that does not repeat fails whether values are checked or not. -/
theorem param_of_untaken (b : Builder) (validator : Option Program) {ts : List Text}
    (once : k.repeats = false) :
    b.param k validator (some (.repeated ts)) = .error (.unexpectedRepeat k.name.text) := by
  cases ts <;> simp [param, once]

/-- Checking changes nothing about a parameter unless one of its values is refused. -/
theorem param_eq_or (checks : b.Under { o with validate := true })
    (compiled : Program.ofSource o k.validatorSource = .ok p) (captures : k.captures = true)
    (data : Params) :
    b.param k (some p) (data.get? k.name.text) = b.unchecked.param k (some p) (data.get? k.name.text) ∨
      ∃ value, k.RefusesFirst o data value ∧
        b.param k (some p) (data.get? k.name.text) = .error (k.refusal o value) := by
  by_cases taken : ∀ ts, data.get? k.name.text = some (.repeated ts) → k.repeats = true
  · rcases Key.forall_passes_or compiled (data.textsFor k) with
      passes | ⟨earlier, value, later, split, passes, refuses⟩
    · exact .inl (param_of_passes checks compiled passes)
    · exact .inr ⟨value, ⟨captures, taken, earlier, later, split, passes, refuses⟩,
        param_of_refuses checks compiled taken split passes refuses⟩
  · -- No value is looked at where the parameter does not take the list at all.
    simp only [not_forall, Bool.not_eq_true] at taken
    obtain ⟨ts, given, once⟩ := taken
    rw [given, param_of_untaken b _ once, param_of_untaken b.unchecked _ once]
    exact .inl rfl

/-! ## All tokens -/

/-- The value is the first one that is refused, before any other failure: the tokens before its parameter
are built without checks, and the values that are given for them all pass. -/
def FirstRefused (o : Options) (ts : List Token) (data : Params) (k : Key) (value : Text) : Prop :=
  ∃ before after, ts = before ++ .param k :: after ∧ k.RefusesFirst o data value ∧
    (∀ k' ∈ Token.keys before, ∀ v ∈ data.textsFor k', k'.Passes o v) ∧
    ∃ b path, ofTokens { o with validate := false } before = .ok b ∧ b.build data = .ok path

section Tokens

variable {t : Token} {pair : Token × Option Program} {ts : List Token}

theorem part_of_passes (checks : b.Under { o with validate := true }) (paired : partOf o t = .ok pair)
    (passes : ∀ k, t = .param k → k.captures = true → ∀ v ∈ data.textsFor k, k.Passes o v) :
    b.part data pair = b.unchecked.part data pair := by
  cases t with
  | text t =>
    obtain rfl := Except.ok.inj paired
    rfl
  | param k =>
    obtain ⟨p, compiled, rfl⟩ := exists_of_partOf_param paired
    by_cases captures : k.captures = true
    · simp only [part, captures, if_true]
      exact param_of_passes checks compiled (passes k rfl captures)
    · simp only [part, captures]
      rfl

theorem part_of_refusesFirst (checks : b.Under { o with validate := true }) (paired : partOf o (.param k) = .ok pair)
    (refused : k.RefusesFirst o data value) : b.part data pair = .error (k.refusal o value) := by
  obtain ⟨p, compiled, rfl⟩ := exists_of_partOf_param paired
  obtain ⟨earlier, later, split, passes, refuses⟩ := refused.first
  simp only [part, refused.captures, if_true]
  exact param_of_refuses checks compiled refused.taken split passes refuses

theorem part_eq_or (checks : b.Under { o with validate := true }) (paired : partOf o t = .ok pair) :
    b.part data pair = b.unchecked.part data pair ∨ ∃ e,
      (∃ k value, pair.1 = .param k ∧ k.RefusesFirst o data value ∧ e = k.refusal o value) ∧
        b.part data pair = .error e := by
  cases t with
  | text t =>
    obtain rfl := Except.ok.inj paired
    exact .inl rfl
  | param k =>
    obtain ⟨p, compiled, rfl⟩ := exists_of_partOf_param paired
    by_cases captures : k.captures = true
    · simp only [part, captures, if_true]
      rcases param_eq_or checks compiled captures data with agree | ⟨value, refused, failed⟩
      · exact .inl agree
      · exact .inr ⟨_, ⟨k, value, rfl, refused, rfl⟩, failed⟩
    · simp only [part, captures]
      exact .inl rfl

/-- What is built with checks has passed them. -/
theorem passes_of_part_eq_ok (checks : b.Under { o with validate := true }) (paired : partOf o (.param k) = .ok pair)
    (captures : k.captures = true) {piece : Text} (built : b.part data pair = .ok piece) :
    ∀ v ∈ data.textsFor k, k.Passes o v := by
  obtain ⟨p, compiled, rfl⟩ := exists_of_partOf_param paired
  simp only [part, captures, if_true] at built
  rcases Key.forall_passes_or compiled (data.textsFor k) with
    passes | ⟨earlier, value, later, split, passes, refuses⟩
  · exact passes
  · -- Otherwise the part would have failed, with the list or with the value that is refused.
    have taken : ∀ ts, data.get? k.name.text = some (.repeated ts) → k.repeats = true := by
      intro ts given
      by_contra once
      rw [given, param_of_untaken b _ (Bool.eq_false_of_not_eq_true once)] at built
      cases built
    rw [param_of_refuses checks compiled taken split passes refuses] at built
    cases built

/-- The tokens alone decide which builder checks what; whether it checks at all is another matter. -/
theorem mapM_partOf {validate : Bool} (compiled : ofTokens { o with validate } ts = .ok b) :
    ts.mapM (partOf o) = .ok b.parts ∧ b.encode = o.encode ∧ b.validate = validate := by
  obtain ⟨parts, each, same⟩ := bind_eq_ok_iff.1 compiled
  obtain rfl := Except.ok.inj same
  exact ⟨each, rfl, rfl⟩

theorem ofTokens_of_mapM {parts : List (Token × Option Program)} (each : ts.mapM (partOf o) = .ok parts)
    (validate : Bool) : ofTokens { o with validate } ts = .ok ⟨parts, o.encode, validate⟩ := by
  have same : ts.mapM (partOf { o with validate }) = .ok parts := each
  rw [ofTokens, same]
  rfl

/-- What a part adds depends on no other part. -/
theorem part_congr (b b' : Builder) (encode : b.encode = b'.encode)
    (validate : b.validate = b'.validate) (data : Params) : b.part data = b'.part data := by
  obtain ⟨parts, _, _⟩ := b
  obtain ⟨parts', _, _⟩ := b'
  obtain rfl := encode
  obtain rfl := validate
  rfl

theorem partOf_of_mem {parts : List (Token × Option Program)} (each : ts.mapM (partOf o) = .ok parts)
    (member : pair ∈ parts) : partOf o pair.1 = .ok pair := by
  obtain ⟨t, -, paired⟩ := exists_related (mapM_eq_ok_iff.1 each).flip member
  rwa [fst_of_partOf paired]

/-! ## Builders -/

/-- A builder without checks fails for other reasons only. -/
theorem build_unchecked_ne (b : Builder) (data : Params) (name fragment segment : Text) :
    b.unchecked.build data ≠ .error (.invalidSegment name fragment segment) := by
  intro failed
  obtain ⟨⟨t, validator⟩, -, here⟩ := exists_of_mapM_eq_error (bind_ok_eq_error_iff.1 failed)
  cases t with
  | text t => cases here
  | param k =>
    simp only [part] at here
    split at here
    · exact param_unchecked_ne b k validator _ name fragment segment here
    · cases here

/-- The first value that is refused is what the build fails with. -/
theorem build_of_firstRefused (compiled : ofTokens { o with validate := true } ts = .ok b)
    (refused : FirstRefused o ts data k value) : b.build data = .error (k.refusal o value) := by
  obtain ⟨before, after, rfl, first, passes, b', path, compiled', built⟩ := refused
  obtain ⟨each, encode, validate⟩ := mapM_partOf compiled
  obtain ⟨each', encode', validate'⟩ := mapM_partOf compiled'
  have checks : b.Under { o with validate := true } := ⟨encode, validate⟩
  obtain ⟨pair, rest, paired, parts⟩ := exists_of_mapM_append_eq_ok each' each
  obtain ⟨pieces, written, -⟩ := bind_ok_eq_ok_iff.1 built
  -- The tokens before the parameter are built as they are without checks.
  have bare : b'.part data = b.unchecked.part data :=
    part_congr b' b.unchecked (encode'.trans encode.symm) validate' data
  have earlier : b'.parts.mapM (b.part data) = .ok pieces := by
    rw [← written, bare]
    refine mapM_congr fun pair' member => ?_
    obtain ⟨t, listed, paired'⟩ := exists_related (mapM_eq_ok_iff.1 each').flip member
    refine part_of_passes checks paired' fun k' same captures v given => ?_
    exact passes k' (Token.mem_keys.2 ⟨same ▸ listed, captures⟩) v given
  rw [build, parts, mapM_append_eq_error earlier (part_of_refusesFirst checks paired first)]
  rfl

/-- A builder with checks comes to the same as without them, or to the first value that is refused. -/
theorem build_eq_or (compiled : ofTokens { o with validate := true } ts = .ok b) (data : Params) :
    b.build data = b.unchecked.build data ∨
      ∃ k value, FirstRefused o ts data k value ∧ b.build data = .error (k.refusal o value) := by
  obtain ⟨each, encode, validate⟩ := mapM_partOf compiled
  have checks : b.Under { o with validate := true } := ⟨encode, validate⟩
  have agree : ∀ pair ∈ b.parts, b.part data pair = b.unchecked.part data pair ∨ ∃ e,
      (∃ k value, pair.1 = .param k ∧ k.RefusesFirst o data value ∧ e = k.refusal o value) ∧
        b.part data pair = .error e :=
    fun pair member => part_eq_or checks (partOf_of_mem each member)
  rcases mapM_eq_or_error agree with
    same | ⟨before, pair, after, pieces, e, split, earlier, bare, ⟨k, value, param, first, rfl⟩, failed⟩
  · left
    rw [build, build, same]
    rfl
  · have among : ∀ pair' ∈ before, pair' ∈ b.parts := fun pair' member =>
      split ▸ List.mem_append_left _ member
    have tokens : ts = before.map (·.1) ++ .param k :: after.map (·.1) := by
      rw [← (ofTokens_of compiled).tokens, Builder.tokens, split, List.map_append, List.map_cons, param]
    have made : (before.map (·.1)).mapM (partOf o) = .ok before := by
      rw [mapM_eq_ok_iff, List.forall₂_map_left_iff, List.forall₂_same]
      exact fun pair' member => partOf_of_mem each (among pair' member)
    refine .inr ⟨k, value, ⟨_, _, tokens, first, fun k' member v given => ?_, _, pieces.flatten,
      ofTokens_of_mapM made false, ?_⟩, ?_⟩
    · -- What was written for the parameter has passed its check.
      obtain ⟨listed, captures⟩ := Token.mem_keys.1 member
      obtain ⟨pair', inside, param'⟩ := List.mem_map.1 listed
      obtain ⟨piece, -, written⟩ := exists_related (mapM_eq_ok_iff.1 earlier) inside
      have paired := partOf_of_mem each (among pair' inside)
      exact passes_of_part_eq_ok checks (param' ▸ paired) captures written v given
    · have same : part ⟨before, o.encode, false⟩ data = b.unchecked.part data :=
        part_congr ⟨before, o.encode, false⟩ b.unchecked encode.symm rfl data
      rw [build, same, bare]
      rfl
    · rw [build, failed]
      rfl

/-- Builders of the same tokens, one that checks values and one that does not. Without checks a builder
never refuses a value. With them it comes to the same, unless there is a value that is refused before
anything else fails, and then it fails with the first one. -/
theorem build_eq_or_firstRefused {checked free : Builder}
    (checking : ofTokens { o with validate := true } ts = .ok checked)
    (trusting : ofTokens { o with validate := false } ts = .ok free) (data : Params) :
    (∀ name fragment segment, free.build data ≠ .error (.invalidSegment name fragment segment)) ∧
    ((∀ k value, ¬FirstRefused o ts data k value) ∧ checked.build data = free.build data ∨
      ∃ k value, FirstRefused o ts data k value ∧
        checked.build data = .error (.invalidSegment k.name.text k.fragment (o.encode.encode value))) := by
  obtain ⟨each, encode, validate⟩ := mapM_partOf checking
  obtain rfl : free = checked.unchecked := by
    rw [ofTokens_of_mapM each false, ← encode] at trusting
    exact (Except.ok.inj trusting).symm
  refine ⟨checked.build_unchecked_ne data, ?_⟩
  -- If the two come to the same, no value is refused first, since a builder without checks refuses none.
  rcases build_eq_or checking data with same | refused
  · refine .inl ⟨fun k value refused => ?_, same⟩
    exact checked.build_unchecked_ne data _ _ _ (same ▸ build_of_firstRefused checking refused)
  · exact .inr refused

/-- A second value of a repeated parameter that its check refuses. -/
theorem build_eq_or_firstRefused_second :
    let tag : Key := ⟨.named "tag".toList, ['/'], [], "[a-z]+".toList, some .oneOrMore⟩
    let ts : List Token := [.param ⟨.named "id".toList, ['/'], [], "[^/#?]+?".toList, none⟩, .param tag]
    let data : Params := ⟨[(.named "tag".toList, .repeated ["a".toList, "7".toList, "8".toList]),
      (.named "id".toList, .single "1".toList)]⟩
    ∃ checked free, ofTokens {} ts = .ok checked ∧ ofTokens { validate := false } ts = .ok free ∧
      free.build data = .ok "/1/a/7/8".toList ∧ FirstRefused {} ts data tag "7".toList ∧
      checked.build data = .error (.invalidSegment "tag".toList "[a-z]+".toList "7".toList) := by
  intro tag ts data
  have evaluated : (ofTokens {} ts).toOption.map (fun b => b.build data) =
      some (.error (.invalidSegment "tag".toList "[a-z]+".toList "7".toList)) := by decide +kernel
  have evaluated' : (ofTokens { validate := false } ts).toOption.map (fun b => b.build data) =
      some (.ok "/1/a/7/8".toList) := by decide +kernel
  obtain ⟨checked, found, refused⟩ := Option.map_eq_some_iff.1 evaluated
  obtain ⟨free, found', built⟩ := Option.map_eq_some_iff.1 evaluated'
  have checking := eq_ok_of_toOption found
  have trusting := eq_ok_of_toOption found'
  refine ⟨checked, free, checking, trusting, built, ?_, refused⟩
  rcases (build_eq_or_firstRefused (o := {}) checking trusting data).2 with
    ⟨-, same⟩ | ⟨k, value, first, failed⟩
  · rw [refused, built] at same
    cases same
  · rw [refused, Except.error.injEq, BuildError.invalidSegment.injEq] at failed
    obtain ⟨name, -, rfl⟩ := failed
    obtain ⟨before, after, split, -⟩ := id first
    have member : Token.param k ∈ ts := split ▸ List.mem_append_right before List.mem_cons_self
    obtain rfl | rfl : k = _ ∨ k = tag := by simpa [ts] using member
    · cases name
    · exact first

end Tokens

end Builder

end RoutePattern
