import RoutePattern.Expr.Reader
import RoutePattern.Lexeme
import RoutePattern.Proofs.CharSet.Bracket
import RoutePattern.Text.Escape

/-! # Reading expressions part by part

`Reads` says what one part of a notation adds to the parts read before it, whatever follows. What
follows must be `quiet`: it takes no count for the part, nor does it open a comment. Each form that
the expressions of patterns are made of has one lemma, and `Reads.append` puts them together.

Nothing here names groups or refers to them, and no flag but the one for case is set.
-/

namespace RoutePattern

namespace Modifier

def low : Modifier → Nat
  | optional | zeroOrMore => 0
  | oneOrMore => 1

def high : Modifier → Option Nat
  | optional => some 1
  | zeroOrMore | oneOrMore => none

end Modifier

namespace Expr.Reader

open CharSet (Bracket.Symbol Bracket.inert Bracket.itemOf)

/-- The text starts with neither counts nor a comment. -/
def quiet : Text → Bool
  | '?' :: _ | '*' :: _ | '+' :: _ | '{' :: _ => false
  | '(' :: '?' :: '#' :: _ => false
  | _ => true

/-- The text ends a group or is at its end. -/
def closes : Text → Bool
  | [] | ')' :: _ => true
  | _ => false

/-- Only the number of groups changes as the expression of a pattern is read. -/
def plain (size : Nat) (relaxed : Bool) (groups : Nat) : Context :=
  { size, flags := { relaxed }, groups }

section Quiet

variable {relaxed : Bool} {t : Text}

theorem quiet_of_closes (closing : closes t = true) : quiet t = true := by
  unfold closes at closing
  split at closing <;> first | rfl | cases closing

theorem skip_quiet (silent : quiet t = true) : skip { relaxed } t = some t := by
  unfold skip
  cases t with
  | nil => rfl
  | cons c t =>
    unfold skipBlank
    split <;> simp_all [quiet]

theorem readRange_quiet {flags : Flags} (silent : quiet t = true) : readRange flags t = none := by
  unfold readRange
  split <;> simp_all [quiet]

theorem readRepetition_quiet (silent : quiet t = true) :
    readRepetition { relaxed } t = some (none, t) := by
  simp [readRepetition, skip_quiet silent, readRange_quiet silent]

end Quiet

/-! ## Counts -/

/-- `m` is read as the counts of what stands before it. -/
def Counts (relaxed : Bool) (m : Text) (times : Option Repetition) : Prop :=
  ∀ rest, quiet rest = true → readRepetition { relaxed } (m ++ rest) = some (times, rest)

section Counts

variable {relaxed : Bool}

theorem counts_nil : Counts relaxed [] none := by
  intro rest silent
  exact readRepetition_quiet silent

theorem skip_modifier (m : Modifier) (rest : Text) :
    skip { relaxed } (m.char :: rest) = some (m.char :: rest) := by cases m <;> rfl

theorem readRange_modifier (m : Modifier) (rest : Text) :
    readRange { relaxed } (m.char :: rest) = some (m.low, m.high, rest) := by cases m <;> rfl

/-- A modifier is greedy where nothing marks it as lazy. -/
theorem counts_modifier (m : Modifier) :
    Counts relaxed [m.char] (some ⟨m.low, m.high, true, false⟩) := by
  intro rest silent
  simp only [readRepetition, List.singleton_append, skip_modifier, readRange_modifier,
    skip_quiet silent, Option.bind_eq_bind, Option.bind_some]
  -- No `?` or `+` follows that would change the counts.
  split
  · simp_all [quiet]
  · split <;> simp_all [quiet]

theorem counts_lazy : Counts relaxed ['+', '?'] (some ⟨1, none, false, false⟩) := by
  intro rest silent
  have start : skip { relaxed } ('+' :: '?' :: rest) = some ('+' :: '?' :: rest) := rfl
  have mark : skip { relaxed } ('?' :: rest) = some ('?' :: rest) := rfl
  simp only [readRepetition, List.cons_append, List.nil_append, start, readRange, mark,
    Option.bind_eq_bind, Option.bind_some]
  split <;> simp_all [quiet]

end Counts

/-! ## Parts -/

section Reads

variable (size : Nat) (relaxed : Bool)

/-- What the parts written as `t` are read as: they add `es` to the sequence that is being read and
open the groups behind number `groups` up to `groups'`. -/
structure Reads (depth groups : Nat) (t : Text) (es : List Expr) (groups' : Nat) : Prop where
  silent : ∀ rest, quiet rest = true → quiet (t ++ rest) = true
  read : ∀ {bound : Nat} (parts earlier : List Expr) {rest : Text}, (t ++ rest).length < bound →
    quiet rest = true → ∃ bound', rest.length < bound' ∧
      readBody bound (plain size relaxed groups) depth parts earlier (t ++ rest) =
        readBody bound' (plain size relaxed groups') depth (es.reverse ++ parts) earlier rest

/-- What all that is left of a group, or of the whole notation, is read as: the alternation `e`. -/
def ReadsRest (depth groups : Nat) (earlier : List Expr) (t : Text) (e : Expr) (groups' : Nat) :
    Prop :=
  ∀ (bound : Nat) (rest : Text), (t ++ rest).length < bound → closes rest = true →
    readBody bound (plain size relaxed groups) depth [] earlier (t ++ rest) =
      some (e, plain size relaxed groups', rest)

variable {size : Nat} {relaxed : Bool} {depth groups groups' groups'' : Nat} {s t m : Text}
  {e e' : Expr} {es es' earlier : List Expr} {times : Option Repetition}

theorem Reads.nil : Reads size relaxed depth groups [] [] groups :=
  ⟨fun _ silent => silent, fun {bound} _ _ {_} enough _ => ⟨bound, enough, rfl⟩⟩

theorem Reads.append (first : Reads size relaxed depth groups s es groups')
    (second : Reads size relaxed depth groups' t es' groups'') :
    Reads size relaxed depth groups (s ++ t) (es ++ es') groups'' := by
  constructor
  · intro rest silent
    rw [List.append_assoc]
    exact first.silent _ (second.silent rest silent)
  · intro bound parts earlier rest enough silent
    rw [List.append_assoc] at enough ⊢
    obtain ⟨bound', enough', read⟩ := first.read parts earlier enough (second.silent rest silent)
    obtain ⟨bound'', enough'', read'⟩ := second.read (es.reverse ++ parts) earlier enough' silent
    exact ⟨bound'', enough'', by simp [read, read']⟩

/-- The characters that never start an atom. -/
def startsAtom : Text → Bool
  | [] | ')' :: _ | '|' :: _ | '?' :: _ | '*' :: _ | '+' :: _ | '{' :: _ | '(' :: _ => false
  | _ => true

theorem startsAtom_cons {c : Char} {t : Text} :
    startsAtom (c :: t) = true ↔ ∀ d ∈ [')', '|', '?', '*', '+', '{', '('], c ≠ d := by
  unfold startsAtom
  split <;> simp_all

theorem startsAtom_quiet (starts : startsAtom t = true) : quiet t = true := by
  unfold quiet
  split <;> simp_all [startsAtom]

/-- A character, a set or an anchor with the counts behind it. -/
theorem Reads.atom (starts : ∀ rest, startsAtom (t ++ rest) = true)
    (atom : ∀ rest, readAtom (plain size relaxed groups) (t ++ rest) =
      some (e, plain size relaxed groups, rest))
    (counts : Counts relaxed m times) (applied : applyRepetition e times = some e') :
    Reads size relaxed depth groups (t ++ m) [e'] groups := by
  constructor
  · intro rest _
    rw [List.append_assoc]
    exact startsAtom_quiet (starts _)
  · intro bound parts earlier rest enough silent
    rw [List.append_assoc] at enough ⊢
    have shape := starts (m ++ rest)
    have skipped : skip { relaxed } (t ++ (m ++ rest)) = some (t ++ (m ++ rest)) :=
      skip_quiet (startsAtom_quiet shape)
    have read := atom (m ++ rest)
    have counted := counts rest silent
    cases bound with
    | zero => omega
    | succ bound =>
      refine ⟨bound, ?_, ?_⟩
      · have nonempty : 0 < t.length := by
          cases t with
          | nil => exact absurd (starts []) (by simp [startsAtom])
          | cons c t => simp
        simp only [List.length_append] at enough
        omega
      · rw [readBody]
        simp only [plain, skipped] at read counted ⊢
        -- Of the branches of `readBody` only the last one is for what starts an atom.
        revert shape read
        generalize t ++ (m ++ rest) = whole
        intro shape read
        split <;> simp_all [startsAtom]

/-! ## Alternatives -/

theorem readBody_closes {bound : Nat} {parts : List Expr} {rest : Text} (enough : 0 < bound)
    (closing : closes rest = true) :
    readBody bound (plain size relaxed groups) depth parts earlier rest =
      some (alternation earlier (ofParts parts.reverse), plain size relaxed groups, rest) := by
  have skipped : skip { relaxed } rest = some rest := skip_quiet (quiet_of_closes closing)
  cases bound with
  | zero => omega
  | succ bound =>
    rw [readBody]
    simp only [plain, skipped]
    split <;> simp_all [closes, mixesReferences]

/-- The last alternative. -/
theorem Reads.last (reads : Reads size relaxed depth groups t es groups') :
    ReadsRest size relaxed depth groups earlier t (alternation earlier (ofParts es)) groups' := by
  intro bound rest enough closing
  obtain ⟨bound', enough', read⟩ := reads.read [] earlier enough (quiet_of_closes closing)
  rw [read, readBody_closes (Nat.zero_lt_of_lt enough') closing]
  simp

/-- An alternative before others. -/
theorem Reads.before (reads : Reads size relaxed depth groups s es groups')
    (others : ReadsRest size relaxed depth groups' (ofParts es :: earlier) t e groups'') :
    ReadsRest size relaxed depth groups earlier (s ++ '|' :: t) e groups'' := by
  intro bound rest enough closing
  rw [List.append_assoc] at enough ⊢
  obtain ⟨bound', enough', read⟩ := reads.read [] earlier enough rfl
  rw [read]
  cases bound' with
  | zero => omega
  | succ bound' =>
    have skipped : skip { relaxed } ('|' :: (t ++ rest)) = some ('|' :: (t ++ rest)) := rfl
    rw [List.cons_append, readBody]
    simp only [plain, skipped]
    simpa [plain] using others bound' rest (by simpa using enough') closing

/-! ## Groups -/

/-- Groups that hold a part of the notation. -/
def GroupHead.encloses : GroupHead → Bool
  | .capture _ | .look _ _ | .atomic | .scoped _ => true
  | .setting _ | .reference _ => false

/-- One step over a whole group and the counts behind it. -/
theorem Reads.group (opening : Text) (head : GroupHead) {inner : Nat}
    (shallow : depth + 1 < nestingLimit) (encloses : head.encloses = true)
    (entered : enter (plain size relaxed groups) head = plain size relaxed inner)
    (left : leave (plain size relaxed groups) (plain size relaxed groups') head =
      plain size relaxed groups')
    (silent : ∀ rest, quiet ('(' :: opening ++ (t ++ ')' :: rest)) = true)
    (opens : ∀ rest, (skip { relaxed } (opening ++ (t ++ ')' :: rest))).bind
      (readGroupHead (plain size relaxed groups)) = some (head, t ++ ')' :: rest))
    (inside : ReadsRest size relaxed (depth + 1) inner [] t e groups')
    (counts : Counts relaxed m times)
    (applied : applyRepetition (wrap (plain size relaxed groups) e head) times = some e') :
    Reads size relaxed depth groups ('(' :: opening ++ t ++ [')'] ++ m) (addPart e' []) groups' := by
  have shape : ∀ rest, '(' :: opening ++ t ++ [')'] ++ m ++ rest =
      '(' :: opening ++ (t ++ ')' :: (m ++ rest)) := by simp
  constructor
  · intro rest _
    rw [shape]
    exact silent _
  · intro bound parts earlier rest enough following
    rw [shape] at enough ⊢
    have skipped : skip { relaxed } _ = some _ := skip_quiet (silent (m ++ rest))
    have opened := opens (m ++ rest)
    have counted := counts rest following
    simp only [List.cons_append, List.length_cons, List.length_append] at enough skipped ⊢
    cases bound with
    | zero => omega
    | succ bound =>
      have read := inside bound (')' :: (m ++ rest))
        (by simp only [List.length_cons, List.length_append]; omega) rfl
      have deep : ¬depth + 1 ≥ nestingLimit := by omega
      refine ⟨bound, by omega, ?_⟩
      have flags : (plain size relaxed groups).flags = { relaxed } := rfl
      have flags' : (plain size relaxed groups').flags = { relaxed } := rfl
      rw [readBody, flags, skipped]
      simp only [deep, if_false, opened]
      cases head with
      | setting flags | reference n => cases encloses
      | _ =>
        -- All other groups are read in the same way.
        simp only [entered, read, left, flags', counted, applied]
        simp only [addPart]
        split <;> rfl

/-- A group that captures nothing. -/
theorem Reads.scoped (shallow : depth + 1 < nestingLimit)
    (inside : Reads size relaxed (depth + 1) groups t es groups') (counts : Counts relaxed m times)
    (applied : applyRepetition (wrap (plain size relaxed groups) (ofParts es) (.scoped { relaxed }))
      times = some e) :
    Reads size relaxed depth groups ("(?:".toList ++ t ++ [')'] ++ m) (addPart e []) groups' :=
  Reads.group ['?', ':'] _ shallow rfl rfl rfl (fun _ => rfl) (fun _ => rfl) inside.last counts
    applied

/-- A group that captures what it holds. -/
theorem Reads.capture (shallow : depth + 1 < nestingLimit)
    (inside : Reads size relaxed (depth + 1) (groups + 1) t es groups')
    (counts : Counts relaxed m times)
    (applied : applyRepetition (Expr.group (groups + 1) (ofParts es)) times = some e) :
    Reads size relaxed depth groups (['('] ++ t ++ [')'] ++ m) (addPart e []) groups' := by
  refine Reads.group [] (.capture none) shallow rfl rfl rfl ?_ ?_ inside.last counts applied
  · -- What is captured is no `?`, so the group is taken neither for a comment
    -- nor for a group of another kind.
    intro rest
    have start := inside.silent (')' :: rest) rfl
    rw [List.singleton_append]
    generalize t ++ ')' :: rest = whole at start
    cases whole with
    | nil => rfl
    | cons c whole =>
      unfold quiet
      split <;> simp_all [quiet]
  · intro rest
    have start := inside.silent (')' :: rest) rfl
    rw [List.nil_append, skip_quiet start]
    generalize t ++ ')' :: rest = whole at start
    simp only [Option.bind_some]
    unfold readGroupHead
    split <;> simp_all [quiet]

/-- What must follow, which is not taken. -/
theorem Reads.ahead (shallow : depth + 1 < nestingLimit)
    (inside : ReadsRest size relaxed (depth + 1) groups [] t e groups') :
    Reads size relaxed depth groups ("(?=".toList ++ t ++ [')']) [look .ahead false e.bare]
      groups' := by
  have whole : Reads size relaxed depth groups ('(' :: ['?', '='] ++ t ++ [')'] ++ [])
      (addPart (look .ahead false e.bare) []) groups' :=
    Reads.group ['?', '='] (.look .ahead false) shallow rfl rfl rfl (fun _ => rfl) (fun _ => rfl)
      inside counts_nil rfl
  simpa [addPart, wrap] using whole

/-- Nothing cannot be repeated. -/
theorem readBody_blank (m : Modifier) (bound : Nat) (parts : List Expr) (rest : Text) :
    readBody bound (plain size relaxed groups) depth parts earlier
      ("(?:)".toList ++ m.char :: rest) = none := by
  have shape : "(?:)".toList ++ m.char :: rest = '(' :: '?' :: ':' :: ')' :: m.char :: rest := rfl
  have counted : ∀ {times t}, readRepetition { relaxed } (m.char :: rest) = some (times, t) →
      applyRepetition empty times = none := by
    intro times t read
    simp only [readRepetition, skip_modifier, readRange_modifier, Option.bind_eq_bind,
      Option.bind_some, Option.bind_eq_some_iff, Option.some.injEq, Prod.mk.injEq] at read
    obtain ⟨-, -, rfl, -⟩ := read
    rfl
  -- The group is read first, as an empty one; then the counts behind it fail.
  cases bound with
  | zero => rfl
  | succ bound =>
    have skipped : skip { relaxed } ('(' :: '?' :: ':' :: ')' :: m.char :: rest) =
        some ('(' :: '?' :: ':' :: ')' :: m.char :: rest) := rfl
    have opened : (skip { relaxed } ('?' :: ':' :: ')' :: m.char :: rest)).bind
        (readGroupHead (plain size relaxed groups)) =
        some (.scoped { relaxed }, ')' :: m.char :: rest) := rfl
    rw [shape, readBody]
    simp only [plain] at opened ⊢
    simp only [skipped, opened]
    split
    · rfl
    · cases bound with
      | zero => rfl
      | succ bound =>
        have inner : readBody (bound + 1) (plain size relaxed groups) (depth + 1) [] []
            (')' :: m.char :: rest) =
            some (alternation [] (ofParts []), plain size relaxed groups, ')' :: m.char :: rest) :=
          readBody_closes (Nat.succ_pos bound) rfl
        simp only [plain] at inner
        simp only [enter, inner, leave]
        split
        · rename_i times t read
          have blank : wrap { size, flags := { relaxed }, groups }
              (alternation [] (ofParts [])) (.scoped { relaxed }) = empty := rfl
          simp only [blank, counted read]
        · rfl

/-! ## Atoms -/

theorem Reads.textStart : Reads size relaxed depth groups ['^'] [anchor .textStart] groups := by
  have reads : Reads size relaxed depth groups (['^'] ++ []) [anchor .textStart] groups :=
    Reads.atom (fun _ => rfl) (fun _ => rfl) counts_nil rfl
  simpa using reads

theorem Reads.textEnd : Reads size relaxed depth groups ['$'] [anchor .textEnd] groups := by
  have reads : Reads size relaxed depth groups (['$'] ++ []) [anchor .textEnd] groups :=
    Reads.atom (fun _ => rfl) (fun _ => rfl) counts_nil rfl
  simpa using reads

theorem readEscape_operator {ctx : Context} {c : Char} (operator : Text.Escape.isOperator c = true)
    (rest : Text) : readEscape ctx (c :: rest) = some (.literal c, rest) := by
  simp only [Text.Escape.isOperator, List.contains_cons, List.contains_nil, Bool.or_false,
    Bool.or_eq_true, beq_iff_eq] at operator
  rcases operator with rfl | rfl | rfl | rfl | rfl | rfl | rfl | rfl | rfl | rfl | rfl | rfl | rfl |
    rfl <;> rfl

theorem readAtom_character {c : Char} (plain : ∀ d ∈ ['.', '^', '$', '[', '\\'], c ≠ d) (t : Text)
    {ctx : Context} : readAtom ctx (c :: t) = some (char (.literal ctx.flags.relaxed c), ctx, t) := by
  simp only [List.forall_mem_cons] at plain
  obtain ⟨notAny, notStart, notEnd, notBracket, notEscape, -⟩ := plain
  rw [readAtom] <;> simpa

theorem Reads.character (c : Char) :
    Reads size relaxed depth groups (Text.Escape.literal [c]) [char (.literal relaxed c)]
      groups := by
  have written : Text.Escape.literal [c] =
      if Text.Escape.isOperator c then ['\\', c] else [c] := by
    simp [Text.Escape.literal, Text.Escape.escapeBy_cons]
  have reads : Reads size relaxed depth groups (Text.Escape.literal [c] ++ [])
      [char (.literal relaxed c)] groups := by
    rw [written]
    by_cases operator : Text.Escape.isOperator c = true
    · rw [if_pos operator]
      refine Reads.atom (fun _ => rfl) (fun rest => ?_) counts_nil rfl
      simp [readAtom, readEscape_operator operator, plain]
    · rw [if_neg operator]
      have others : ∀ d, Text.Escape.isOperator d = true → c ≠ d := by
        rintro d special rfl
        exact operator special
      refine Reads.atom (fun rest => ?_) (fun rest => ?_) counts_nil rfl
      · have special : [')', '|', '?', '*', '+', '{', '('].all Text.Escape.isOperator = true := rfl
        exact startsAtom_cons.2 fun d member => others d (List.all_eq_true.1 special d member)
      · have special : ['.', '^', '$', '[', '\\'].all Text.Escape.isOperator = true := rfl
        exact readAtom_character (fun d member => others d (List.all_eq_true.1 special d member)) rest
  simpa using reads

/-- Literal text stands for its characters. -/
theorem Reads.literal (t : Text) :
    Reads size relaxed depth groups (Text.Escape.literal t)
      (t.map fun c => char (.literal relaxed c)) groups := by
  induction t with
  | nil => exact Reads.nil
  | cons c t ih =>
    have split : Text.Escape.literal (c :: t) =
        Text.Escape.literal [c] ++ Text.Escape.literal t :=
      Text.Escape.escapeBy_append _ [c] t
    rw [split]
    exact (Reads.character c).append ih

/-! ## Classes -/

/-- The symbol that a member of a class is read as. -/
def symbolOf (c : Char) : Bracket.Symbol :=
  if Text.Escape.isClassOperator c then .literal c else .plain c

theorem inert_symbolOf (c : Char) : Bracket.inert (symbolOf c) = true := by
  unfold symbolOf
  split
  · rfl
  · simp_all [Bracket.inert, Text.Escape.isClassOperator]

theorem itemOf_symbolOf (c : Char) : Bracket.itemOf (symbolOf c) = .single c := by
  unfold symbolOf
  split <;> rfl

theorem readBracketEscape_operator {ctx : Context} {c : Char}
    (operator : Text.Escape.isClassOperator c = true) (rest : Text) :
    readBracketEscape ctx (c :: rest) = some (.literal c, rest) := by
  simp only [Text.Escape.isClassOperator, List.contains_cons, List.contains_nil, Bool.or_false,
    Bool.or_eq_true, beq_iff_eq] at operator
  rcases operator with rfl | rfl | rfl | rfl | rfl | rfl | rfl <;> rfl

theorem readSymbols_members {ctx : Context} (t rest : Text) {bound : Nat}
    (enough : t.length < bound) :
    readSymbols ctx bound 1 (Text.Escape.members t ++ ']' :: rest) =
      some (t.map symbolOf ++ [.plain ']'], rest) := by
  induction t generalizing bound with
  | nil =>
    cases bound with
    | zero => cases enough
    | succ bound => rfl
  | cons c t ih =>
    cases bound with
    | zero => cases enough
    | succ bound =>
      have more := ih (show t.length < bound by simpa using enough)
      rw [Text.Escape.members, Text.Escape.escapeBy_cons, ← Text.Escape.members, List.append_assoc]
      by_cases operator : Text.Escape.isClassOperator c = true
      · -- The character is written behind a backslash.
        simp [operator, readSymbols, readBracketEscape_operator operator, more, symbolOf]
      · have other : c ≠ '\\' ∧ c ≠ ']' ∧ c ≠ '[' := by
          simp_all [Text.Escape.isClassOperator]
        simp [operator, readSymbols, other, more, symbolOf]

theorem length_le_members (t : Text) : t.length ≤ (Text.Escape.members t).length := by
  induction t with
  | nil => exact Nat.le_refl 0
  | cons c t ih =>
    rw [Text.Escape.members, Text.Escape.escapeBy_cons, ← Text.Escape.members]
    split <;> simp <;> omega

/-- The first thing of a class is no `^` or `]`, as these are escaped. -/
theorem head?_members (nonempty : t ≠ []) (rest : Text) :
    (Text.Escape.members t ++ rest).head? ≠ some '^' ∧
      (Text.Escape.members t ++ rest).head? ≠ some ']' := by
  cases t with
  | nil => exact absurd rfl nonempty
  | cons c t =>
    rw [Text.Escape.members, Text.Escape.escapeBy_cons]
    split
    · simp
    · simp_all [Text.Escape.isClassOperator]

theorem symbols_inert (t : Text) : ∀ s ∈ t.map symbolOf, Bracket.inert s = true := by
  intro s member
  obtain ⟨c, -, rfl⟩ := List.mem_map.1 member
  exact inert_symbolOf c

theorem items_members (t : Text) :
    (t.map symbolOf).map Bracket.itemOf = t.map .single := by
  rw [List.map_map]
  exact List.map_congr_left fun c _ => itemOf_symbolOf c

theorem readBracket_members (nonempty : t ≠ []) (rest : Text) :
    readBracket (plain size relaxed groups) (Text.Escape.members t ++ ']' :: rest) =
      some (.relax relaxed (.anyOf (t.map .single)), rest) := by
  have head := head?_members nonempty (']' :: rest)
  have bound : t.length < (Text.Escape.members t ++ ']' :: rest).length + 1 := by
    have := length_le_members t
    simp only [List.length_append]
    omega
  have symbols : t.map symbolOf ≠ [] := by simpa using nonempty
  have read := CharSet.Bracket.read?_inert relaxed (symbols_inert t) symbols
  simp only [readBracket, beq_iff_eq, head.1, head.2, if_false, List.length_nil, List.drop_zero,
    readSymbols_members t rest bound]
  rw [items_members] at read
  simpa [plain] using read

theorem readBracket_members_negated (nonempty : t ≠ []) (rest : Text) :
    readBracket (plain size relaxed groups) ('^' :: (Text.Escape.members t ++ ']' :: rest)) =
      some (.compl (.relax relaxed (.anyOf (t.map .single))), rest) := by
  have head := head?_members nonempty (']' :: rest)
  have bound : t.length < ('^' :: (Text.Escape.members t ++ ']' :: rest)).length + 1 := by
    have := length_le_members t
    simp only [List.length_cons, List.length_append]
    omega
  have symbols : t.map symbolOf ≠ [] := by simpa using nonempty
  have read := CharSet.Bracket.read?_inert_negated relaxed (symbols_inert t) symbols
  simp only [readBracket, List.head?_cons, BEq.rfl, if_true, List.length_cons, List.length_nil,
    List.drop_succ_cons, List.drop_zero, beq_iff_eq, head.2, if_false] at bound ⊢
  rw [readSymbols_members t rest bound]
  rw [items_members] at read
  simpa [plain] using read

theorem Reads.classOf (nonempty : t ≠ []) (counts : Counts relaxed m times)
    (applied : applyRepetition (char (.relax relaxed (.anyOf (t.map .single)))) times = some e) :
    Reads size relaxed depth groups (Text.Escape.classOf t ++ m) [e] groups := by
  refine Reads.atom (fun _ => rfl) (fun rest => ?_) counts applied
  have read : readBracket (plain size relaxed groups) (Text.Escape.members t ++ ']' :: rest) =
      some (.relax relaxed (.anyOf (t.map .single)), rest) := readBracket_members nonempty rest
  simp [Text.Escape.classOf, readAtom, read]

theorem Reads.classWithout (nonempty : t ≠ []) (counts : Counts relaxed m times)
    (applied : applyRepetition (char (.compl (.relax relaxed (.anyOf (t.map .single))))) times =
      some e) :
    Reads size relaxed depth groups ("[^".toList ++ Text.Escape.members t ++ [']'] ++ m) [e]
      groups := by
  refine Reads.atom (fun _ => rfl) (fun rest => ?_) counts applied
  have read : readBracket (plain size relaxed groups)
      ('^' :: (Text.Escape.members t ++ ']' :: rest)) =
      some (.compl (.relax relaxed (.anyOf (t.map .single))), rest) :=
    readBracket_members_negated nonempty rest
  simp [readAtom, read]

/-- What a parameter without a fragment of its own may hold at one position. -/
def segmentSet (relaxed : Bool) (t : Text) : CharSet :=
  if t.isEmpty then .relax relaxed (.anyOf [.space, .compl .space])
  else .compl (.relax relaxed (.anyOf (t.map .single)))

theorem readBracket_anything (rest : Text) :
    readBracket (plain size relaxed groups) ('\\' :: 's' :: '\\' :: 'S' :: ']' :: rest) =
      some (.relax relaxed (.anyOf [.space, .compl .space]), rest) := by
  have silent : ∀ s ∈ [Bracket.Symbol.set .space, .set (.compl .space)],
      Bracket.inert s = true := by
    simp [Bracket.inert]
  have read := CharSet.Bracket.read?_inert relaxed silent (List.cons_ne_nil _ _)
  have symbols : readSymbols (plain size relaxed groups) (rest.length + 1 + 1 + 1 + 1 + 1 + 1) 1
      ('\\' :: 's' :: '\\' :: 'S' :: ']' :: rest) =
      some ([.set .space, .set (.compl .space), .plain ']'], rest) := rfl
  have flags : (plain size relaxed groups).flags = { relaxed } := rfl
  simpa [readBracket, symbols, flags, Bracket.itemOf] using read

/-- What a parameter without a fragment holds: one or more characters, as few as possible. -/
theorem Reads.segment (t : Text) :
    Reads size relaxed depth groups (Text.Escape.runWithout t)
      [rep (char (segmentSet relaxed t)) 1 none false] groups := by
  unfold Text.Escape.runWithout segmentSet
  split
  · -- Without delimiters anything is held.
    exact Reads.atom (t := "[\\s\\S]".toList)
      (e := char (.relax relaxed (.anyOf [.space, .compl .space]))) (fun _ => rfl)
      (fun rest => by simp [readAtom, readBracket_anything]) counts_lazy rfl
  · rename_i nonempty
    rw [List.isEmpty_iff] at nonempty
    have reads : Reads size relaxed depth groups
        ("[^".toList ++ Text.Escape.members t ++ [']'] ++ ['+', '?'])
        [rep (char (.compl (.relax relaxed (.anyOf (t.map .single))))) 1 none false] groups :=
      Reads.classWithout nonempty counts_lazy rfl
    simpa using reads

/-! ## Whole notations -/

/-- A reading that has come to the end. -/
def notated? : Expr × Context × Text → Option Notated
  | (e, ctx, []) => some ⟨e, ctx.groups, ctx.referred⟩
  | _ => none

theorem read?_eq (t : Text) :
    read? t = (readBody (t.length + 1) (plain t.byteLength false 0) 0 [] [] t).bind notated? := by
  unfold read? notated?
  simp only [plain]
  generalize readBody (t.length + 1) _ 0 [] [] t = read
  rcases read with _ | ⟨e, ctx, _ | ⟨c, rest⟩⟩ <;> rfl

/-- The flag for case counts for all that stands behind it. -/
theorem read?_flag_eq (silent : quiet t = true) :
    read? ("(?i)".toList ++ t) =
      (readBody (t.length + 4) (plain (Text.byteLength ("(?i)".toList ++ t)) true 0) 0 [] [] t).bind
        notated? := by
  -- The group is read as a setting, which adds nothing to the sequence.
  have counted : readRepetition { relaxed := true } t = some (none, t) := readRepetition_quiet silent
  have shape : "(?i)".toList ++ t = '(' :: '?' :: 'i' :: ')' :: t := rfl
  have skipped : skip {} ('(' :: '?' :: 'i' :: ')' :: t) =
      some ('(' :: '?' :: 'i' :: ')' :: t) := rfl
  have opened : ∀ size, (skip {} ('?' :: 'i' :: ')' :: t)).bind (readGroupHead { size }) =
      some (.setting { relaxed := true }, t) := by
    intro size
    simp [skip, skipBlank, readGroupHead, readFlags, Flags.set?]
  have deep : ¬0 + 1 ≥ nestingLimit := by decide
  rw [read?_eq, shape]
  simp only [plain, List.length_cons]
  rw [readBody, skipped]
  simp only [opened, counted, deep, if_false]

theorem Reads.notated (reads : Reads size relaxed 0 0 t es groups) {bound : Nat}
    (enough : t.length < bound) :
    (readBody bound (plain size relaxed 0) 0 [] [] t).bind notated? =
      some ⟨ofParts es, groups, []⟩ := by
  have last : ReadsRest size relaxed 0 0 [] t (alternation [] (ofParts es)) groups := reads.last
  have whole := last bound [] (by simpa using enough) rfl
  rw [List.append_nil] at whole
  rw [whole]
  rfl

end Reads

end Expr.Reader

end RoutePattern
