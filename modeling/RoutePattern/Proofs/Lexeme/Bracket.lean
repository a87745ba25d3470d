import RoutePattern.Lexeme.Scan
import RoutePattern.Proofs.Except

/-! # Texts between brackets

What is read as a fragment, said of the text alone. `Closes` reads brackets from left to right and
passes over each backslash with the character behind it, and `CapturesAt` is a bracket of a group that
captures. A text is a fragment if it closes what it opens and captures nothing
(`fragmentFrom_eq_ok_iff`); otherwise the first bracket that captures is to blame, or that the
fragment has no end (`fragmentFrom_eq_error_iff`).
-/

namespace RoutePattern.Lexeme

open Text (byteLength)

/-- Each backslash has a character behind it that it takes. -/
inductive Whole : Text → Prop
  | nil : Whole []
  | pair (c : Char) {t : Text} (later : Whole t) : Whole ('\\' :: c :: t)
  | char {c : Char} {t : Text} (bare : c ≠ '\\') (later : Whole t) : Whole (c :: t)

/-- From left to right, the text closes each bracket that it opens and `depth` brackets that were open
before, and never more than are open. -/
inductive Closes : Nat → Text → Prop
  | nil : Closes 0 []
  | pair (c : Char) {depth : Nat} {t : Text} (later : Closes depth t) :
      Closes depth ('\\' :: c :: t)
  | opening {depth : Nat} {t : Text} (later : Closes (depth + 1) t) : Closes depth ('(' :: t)
  | closing {depth : Nat} {t : Text} (later : Closes depth t) : Closes (depth + 1) (')' :: t)
  | char {c : Char} {depth : Nat} {t : Text} (bare : c ∉ ['\\', '(', ')'])
      (later : Closes depth t) : Closes depth (c :: t)

/-- What stands behind the bracket of a group that captures: the group is plain, or it has a name and
does not look behind. -/
inductive Capturing : Text → Prop
  | plain {t : Text} (bare : t.head? ≠ some '?') : Capturing t
  | named {t : Text} (equal : t.head? ≠ some '=') (unequal : t.head? ≠ some '!') :
      Capturing ('?' :: '<' :: t)
  | marked (t : Text) : Capturing ('?' :: 'P' :: '<' :: t)

/-- Behind `inner`, which no backslash reaches beyond, a group opens that captures. -/
structure CapturesAt (t inner : Text) : Prop where
  whole : Whole inner
  opens : ∃ rest, t = inner ++ '(' :: rest ∧ Capturing rest

/-- No group opens that captures. -/
def Captureless (t : Text) : Prop := ∀ inner, ¬CapturesAt t inner

/-- Behind `inside` stands the bracket that closes the one before the text, where `depth` more are
open. -/
structure EndsAt (depth : Nat) (t inside : Text) : Prop where
  closes : Closes depth inside
  stands : ∃ behind, t = inside ++ ')' :: behind

/-- A text that is a fragment between brackets. -/
structure IsFragment (f : Text) : Prop where
  filled : f ≠ []
  unmarked : f.head? ≠ some '?'
  closes : Closes 0 f
  captureless : Captureless f

variable {start depth index : Nat} {t inner inside : Text} {c : Char} {e : SyntaxError}

/-! ## Groups that capture -/

theorem opensCapture_iff : opensCapture t = true ↔ Capturing t := by
  constructor
  · intro opens
    unfold opensCapture at opens
    split at opens
    · cases opens
    · cases opens
    · rename_i rest unequal equal
      refine .named (fun first => ?_) (fun first => ?_)
      · obtain ⟨rest', rfl⟩ := List.head?_eq_some_iff.1 first
        exact unequal rest' rfl
      · obtain ⟨rest', rfl⟩ := List.head?_eq_some_iff.1 first
        exact equal rest' rfl
    · exact .marked _
    · cases opens
    · rename_i bare
      refine .plain fun first => ?_
      obtain ⟨rest, rfl⟩ := List.head?_eq_some_iff.1 first
      exact bare rest rfl
  · rintro (bare | ⟨equal, unequal⟩ | _)
    · unfold opensCapture
      split <;> simp_all
    · simp_all [opensCapture, List.head?_eq_some_iff]
    · rfl

/-- Three characters tell. -/
theorem opensCapture_three (a b d : Char) (t : Text) :
    opensCapture (a :: b :: d :: t) = opensCapture [a, b, d] := by
  by_cases question : a = '?'
  · by_cases angle : b = '<'
    · by_cases equal : d = '='
      · simp [opensCapture, question, angle, equal]
      · by_cases unequal : d = '!' <;> simp [opensCapture, question, angle, equal, unequal]
    · by_cases mark : b = 'P'
      · by_cases less : d = '<' <;> simp [opensCapture, question, mark, less]
      · simp [opensCapture, question, angle, mark]
  · simp [opensCapture, question]

/-- The look ahead of a bracket does not go beyond the bracket that closes it. -/
theorem opensCapture_append (closed : ')' ∈ t) (more : Text) :
    opensCapture (t ++ more) = opensCapture t := by
  rcases t with _ | ⟨a, _ | ⟨b, _ | ⟨d, t⟩⟩⟩
  · cases closed
  · obtain rfl := List.mem_singleton.1 closed
    simp [opensCapture]
  · by_cases question : a = '?'
    · -- The bracket that closes stands where `<` or `P` would.
      obtain rfl : b = ')' := by simpa [question, eq_comm] using closed
      simp [opensCapture, question]
    · simp [opensCapture, question]
  · rw [List.cons_append, List.cons_append, List.cons_append, opensCapture_three,
      opensCapture_three a b d t]

theorem Closes.mem_of_pos (closes : Closes (depth + 1) t) : ')' ∈ t := by
  -- Induction over a number of open brackets that is known to be positive.
  generalize pos : depth + 1 = d at closes
  induction closes generalizing depth with
  | nil => cases pos
  | pair c _ ih => exact List.mem_cons_of_mem _ (List.mem_cons_of_mem _ (ih pos))
  | opening _ ih => exact List.mem_cons_of_mem _ (ih rfl)
  | closing _ _ => exact List.mem_cons_self
  | char _ _ ih => exact List.mem_cons_of_mem _ (ih pos)

/-! ## Where a group opens -/

theorem CapturesAt.pair (captures : CapturesAt t inner) :
    CapturesAt ('\\' :: c :: t) ('\\' :: c :: inner) := by
  obtain ⟨whole, rest, rfl, capturing⟩ := captures
  exact ⟨.pair c whole, rest, rfl, capturing⟩

theorem CapturesAt.char (captures : CapturesAt t inner) (bare : c ≠ '\\') :
    CapturesAt (c :: t) (c :: inner) := by
  obtain ⟨whole, rest, rfl, capturing⟩ := captures
  exact ⟨.char bare whole, rest, rfl, capturing⟩

theorem capturesAt_nil (capturing : Capturing t) : CapturesAt ('(' :: t) [] :=
  ⟨.nil, t, rfl, capturing⟩

theorem captureless_nil : Captureless [] := by
  rintro inner ⟨-, rest, same, -⟩
  simp at same

/-- No group opens behind a lone backslash. -/
theorem captureless_lone : Captureless ['\\'] := by
  rintro inner ⟨whole, rest, same, -⟩
  cases whole <;> simp_all

theorem CapturesAt.of_pair (captures : CapturesAt ('\\' :: c :: t) inner) :
    ∃ inner', inner = '\\' :: c :: inner' ∧ CapturesAt t inner' := by
  obtain ⟨whole, rest, same, capturing⟩ := captures
  cases whole with
  | nil => simp at same
  | pair c' later =>
    simp only [List.cons_append, List.cons.injEq, true_and] at same
    obtain ⟨rfl, rfl⟩ := same
    exact ⟨_, rfl, later, rest, rfl, capturing⟩
  | char bare later =>
    obtain ⟨rfl, -⟩ := List.cons.inj same
    exact absurd rfl bare

theorem CapturesAt.of_char (captures : CapturesAt (c :: t) inner) (bare : c ≠ '\\') :
    (c = '(' ∧ inner = [] ∧ Capturing t) ∨ ∃ inner', inner = c :: inner' ∧ CapturesAt t inner' := by
  obtain ⟨whole, rest, same, capturing⟩ := captures
  cases whole with
  | nil =>
    obtain ⟨rfl, rfl⟩ := List.cons.inj same
    exact .inl ⟨rfl, rfl, capturing⟩
  | pair c' later =>
    obtain ⟨rfl, -⟩ := List.cons.inj same
    exact absurd rfl bare
  | char _ later =>
    obtain ⟨rfl, rfl⟩ := List.cons.inj same
    exact .inr ⟨_, rfl, later, rest, rfl, capturing⟩

theorem CapturesAt.of_other (captures : CapturesAt (c :: t) inner) (bare : c ≠ '\\')
    (other : c ≠ '(') : ∃ inner', inner = c :: inner' ∧ CapturesAt t inner' := by
  rcases captures.of_char bare with ⟨same, -⟩ | behind
  · exact absurd same other
  · exact behind

theorem captureless_pair : Captureless ('\\' :: c :: t) ↔ Captureless t := by
  constructor
  · exact fun none inner captures => none _ captures.pair
  · intro none inner captures
    obtain ⟨inner', -, later⟩ := captures.of_pair
    exact none inner' later

theorem captureless_opening : Captureless ('(' :: t) ↔ ¬Capturing t ∧ Captureless t := by
  constructor
  · intro none
    exact ⟨fun capturing => none [] (capturesAt_nil capturing),
      fun inner captures => none _ (captures.char (by decide))⟩
  · rintro ⟨bare, none⟩ inner captures
    rcases captures.of_char (by decide) with ⟨-, -, capturing⟩ | ⟨inner', -, later⟩
    · exact bare capturing
    · exact none inner' later

theorem captureless_char (bare : c ≠ '\\') (other : c ≠ '(') :
    Captureless (c :: t) ↔ Captureless t := by
  constructor
  · exact fun none inner captures => none _ (captures.char bare)
  · intro none inner captures
    obtain ⟨inner', -, later⟩ := captures.of_other bare other
    exact none inner' later

/-! ## Where a fragment ends -/

theorem not_endsAt_nil : ¬EndsAt depth [] inside := by
  rintro ⟨-, behind, same⟩
  simp at same

theorem not_endsAt_lone : ¬EndsAt depth ['\\'] inside := by
  rintro ⟨closes, behind, same⟩
  cases closes <;> simp_all

theorem EndsAt.of_pair (ends : EndsAt depth ('\\' :: c :: t) inside) :
    ∃ inside', inside = '\\' :: c :: inside' ∧ EndsAt depth t inside' := by
  obtain ⟨closes, behind, same⟩ := ends
  cases closes with
  | nil => simp at same
  | pair c' later =>
    simp only [List.cons_append, List.cons.injEq, true_and] at same
    obtain ⟨rfl, rfl⟩ := same
    exact ⟨_, rfl, later, behind, rfl⟩
  | opening later | closing later => simp at same
  | char bare later =>
    obtain ⟨rfl, -⟩ := List.cons.inj same
    simp at bare

theorem EndsAt.of_opening (ends : EndsAt depth ('(' :: t) inside) :
    ∃ inside', inside = '(' :: inside' ∧ EndsAt (depth + 1) t inside' := by
  obtain ⟨closes, behind, same⟩ := ends
  cases closes with
  | nil | pair c' later | closing later => simp at same
  | opening later =>
    obtain ⟨-, rfl⟩ := List.cons.inj same
    exact ⟨_, rfl, later, behind, rfl⟩
  | char bare later =>
    obtain ⟨rfl, -⟩ := List.cons.inj same
    simp at bare

theorem EndsAt.of_closing (ends : EndsAt (depth + 1) (')' :: t) inside) :
    ∃ inside', inside = ')' :: inside' ∧ EndsAt depth t inside' := by
  obtain ⟨closes, behind, same⟩ := ends
  cases closes with
  | pair c' later | opening later => simp at same
  | closing later =>
    obtain ⟨-, rfl⟩ := List.cons.inj same
    exact ⟨_, rfl, later, behind, rfl⟩
  | char bare later =>
    obtain ⟨rfl, -⟩ := List.cons.inj same
    simp at bare

theorem EndsAt.of_char (ends : EndsAt depth (c :: t) inside) (bare : c ∉ ['\\', '(', ')']) :
    ∃ inside', inside = c :: inside' ∧ EndsAt depth t inside' := by
  obtain ⟨closes, behind, same⟩ := ends
  cases closes with
  | nil | pair c' later | opening later | closing later => simp_all
  | char _ later =>
    obtain ⟨rfl, rfl⟩ := List.cons.inj same
    exact ⟨_, rfl, later, behind, rfl⟩

/-! ## What ends before its bracket -/

/-- Nothing is read up to a bracket that closes: the first group that captures is to blame, or the
bracket before the text, which has no end. -/
inductive Refused (start depth index : Nat) (t : Text) : SyntaxError → Prop
  | capturing {inner : Text} (captures : CapturesAt t inner)
      (first : ∀ inner', CapturesAt t inner' → inner <+: inner')
      (before : ∀ inside, EndsAt depth t inside → inner ++ ['('] <+: inside) :
      Refused start depth index t (.capturingGroup (index + byteLength inner))
  | endless (captureless : Captureless t) (never : ∀ inside, ¬EndsAt depth t inside) :
      Refused start depth index t (.unbalancedFragment start)

/-- What is to blame behind `head` is to blame for the whole text if `head` has no part in it. -/
theorem Refused.behind {depth' : Nat} (head : Text)
    (refused : Refused start depth' (index + byteLength head) t e)
    (outward : ∀ inner, CapturesAt t inner → CapturesAt (head ++ t) (head ++ inner))
    (inward : ∀ inner, CapturesAt (head ++ t) inner →
      ∃ inner', inner = head ++ inner' ∧ CapturesAt t inner')
    (ends : ∀ inside, EndsAt depth (head ++ t) inside →
      ∃ inside', inside = head ++ inside' ∧ EndsAt depth' t inside') :
    Refused start depth index (head ++ t) e := by
  cases refused with
  | @capturing inner captures first before =>
    -- The same bracket is the first one, and it stands at the same place.
    have place : index + byteLength head + byteLength inner = index + byteLength (head ++ inner) := by
      rw [Text.byteLength_append, Nat.add_assoc]
    rw [place]
    refine .capturing (outward inner captures) (fun other opens => ?_) (fun inside closed => ?_)
    · obtain ⟨inner', rfl, later⟩ := inward other opens
      exact (List.prefix_append_right_inj head).2 (first inner' later)
    · obtain ⟨inside', rfl, later⟩ := ends inside closed
      rw [List.append_assoc]
      exact (List.prefix_append_right_inj head).2 (before inside' later)
  | endless captureless never =>
    refine .endless (fun inner captures => ?_) (fun inside closed => ?_)
    · obtain ⟨inner', -, captures⟩ := inward inner captures
      exact captureless inner' captures
    · obtain ⟨inside', -, closed⟩ := ends inside closed
      exact never inside' closed

/-- The characters that have no meaning of their own in a fragment. -/
theorem not_mem_special (escape : c ≠ '\\') (closing : depth = 0 → c ≠ ')')
    (closing' : ∀ d, depth = d + 1 → c ≠ ')') (opening : c ≠ '(') : c ∉ ['\\', '(', ')'] := by
  have other : c ≠ ')' := by
    cases depth with
    | zero => exact closing rfl
    | succ d => exact closing' d rfl
  simp [escape, opening, other]

/-- Reading a fragment stops early at what is to blame. -/
theorem refused_of_balanced (failed : balanced start depth index t = .error e) :
    Refused start depth index t e := by
  fun_induction balanced start depth index t with
  | case1 =>
    obtain rfl := Except.error.inj failed
    exact .endless captureless_nil (fun _ => not_endsAt_nil)
  | case2 =>
    obtain rfl := Except.error.inj failed
    exact .endless captureless_lone (fun _ => not_endsAt_lone)
  | case3 depth index c rest ih =>
    have later := ih (bind_ok_eq_error_iff.1 failed)
    rw [Nat.add_assoc] at later
    exact later.behind ['\\', c] (fun _ => .pair) (fun _ => CapturesAt.of_pair)
      fun _ => EndsAt.of_pair
  | case4 => cases failed
  | case5 depth index rest ih =>
    exact (ih (bind_ok_eq_error_iff.1 failed)).behind [')']
      (fun _ captures => captures.char (by decide))
      (fun _ captures => captures.of_other (by decide) (by decide)) fun _ => EndsAt.of_closing
  | case6 depth index rest opens =>
    obtain rfl := Except.error.inj failed
    -- The group that captures opens right here, before anything closes.
    refine .capturing (capturesAt_nil (opensCapture_iff.1 opens)) (fun _ _ => List.nil_prefix) ?_
    intro inside ends
    obtain ⟨inside', rfl, -⟩ := ends.of_opening
    exact List.cons_prefix_cons.2 ⟨rfl, List.nil_prefix⟩
  | case7 depth index rest bare ih =>
    refine (ih (bind_ok_eq_error_iff.1 failed)).behind ['(']
      (fun _ captures => captures.char (by decide)) (fun _ captures => ?_) fun _ => EndsAt.of_opening
    rcases captures.of_char (by decide) with ⟨-, -, capturing⟩ | inside
    · exact absurd (opensCapture_iff.2 capturing) bare
    · exact inside
  | case8 depth index c rest escape closing closing' opening ih =>
    have special := not_mem_special escape closing closing' opening
    exact (ih (bind_ok_eq_error_iff.1 failed)).behind [c]
      (fun _ captures => captures.char escape)
      (fun _ captures => captures.of_other escape opening) fun _ ends => ends.of_char special

/-! ## Fragments -/

/-- What is read up to a bracket closes all others and captures nothing. -/
theorem closes_of_balanced {behind : Text}
    (closed : balanced start depth index t = .ok (inside, behind)) :
    Closes depth inside ∧ Captureless inside := by
  fun_induction balanced start depth index t generalizing inside behind with
  | case1 | case2 | case6 => cases closed
  | case3 depth index c rest ih =>
    obtain ⟨⟨inside', behind'⟩, read, same⟩ := bind_ok_eq_ok_iff.1 closed
    obtain ⟨rfl, rfl⟩ := Prod.mk.inj same
    obtain ⟨closes, none⟩ := ih read
    exact ⟨.pair c closes, captureless_pair.2 none⟩
  | case4 =>
    obtain ⟨rfl, rfl⟩ := Prod.mk.inj (Except.ok.inj closed)
    exact ⟨.nil, captureless_nil⟩
  | case5 depth index rest ih =>
    obtain ⟨⟨inside', behind'⟩, read, same⟩ := bind_ok_eq_ok_iff.1 closed
    obtain ⟨rfl, rfl⟩ := Prod.mk.inj same
    obtain ⟨closes, none⟩ := ih read
    exact ⟨.closing closes, (captureless_char (by decide) (by decide)).2 none⟩
  | case7 depth index rest bare ih =>
    obtain ⟨⟨inside', behind'⟩, read, same⟩ := bind_ok_eq_ok_iff.1 closed
    obtain ⟨rfl, rfl⟩ := Prod.mk.inj same
    obtain ⟨closes, none⟩ := ih read
    -- Reading has looked beyond the fragment, but the end of the group inside decides.
    rw [balanced_shape read, opensCapture_append closes.mem_of_pos, opensCapture_iff] at bare
    exact ⟨.opening closes, captureless_opening.2 ⟨bare, none⟩⟩
  | case8 depth index c rest escape closing closing' opening ih =>
    obtain ⟨⟨inside', behind'⟩, read, same⟩ := bind_ok_eq_ok_iff.1 closed
    obtain ⟨rfl, rfl⟩ := Prod.mk.inj same
    obtain ⟨closes, none⟩ := ih read
    exact ⟨.char (not_mem_special escape closing closing' opening) closes,
      (captureless_char escape opening).2 none⟩

/-- A text that closes all others and captures nothing is read up to the bracket behind it. -/
theorem balanced_of_closes (closes : Closes depth inside) (none : Captureless inside)
    (start index : Nat) (behind : Text) :
    balanced start depth index (inside ++ ')' :: behind) = .ok (inside, behind) := by
  induction closes generalizing index with
  | nil => rw [List.nil_append, balanced]
  | pair c _ ih =>
    rw [List.cons_append, List.cons_append, balanced, ih (captureless_pair.1 none)]
    rfl
  | opening later ih =>
    obtain ⟨bare, none⟩ := captureless_opening.1 none
    rw [List.cons_append, balanced, opensCapture_append later.mem_of_pos,
      if_neg (mt opensCapture_iff.1 bare), ih none]
    rfl
  | closing _ ih =>
    rw [List.cons_append, balanced, ih ((captureless_char (by decide) (by decide)).1 none)]
    rfl
  | @char c depth t bare _ ih =>
    simp only [List.mem_cons, List.not_mem_nil, or_false, not_or] at bare
    obtain ⟨escape, opening, closing⟩ := bare
    rw [List.cons_append, balanced, ih ((captureless_char escape opening).1 none)]
    · rfl
    all_goals simp_all

theorem fragmentFrom_eq_ok_iff {f behind : Text} :
    fragmentFrom start t = .ok (f, behind) ↔ IsFragment f ∧ t = f ++ ')' :: behind := by
  constructor
  · intro read
    have shape := fragmentFrom_shape read
    unfold fragmentFrom at read
    split at read
    · cases read
    · rename_i unmarked
      obtain ⟨⟨inside, behind'⟩, closed, same⟩ := bind_eq_ok_iff.1 read
      dsimp only at same
      split at same
      · cases same
      · rename_i filled
        obtain ⟨rfl, rfl⟩ := Prod.mk.inj (Except.ok.inj same)
        obtain ⟨closes, none⟩ := closes_of_balanced closed
        have filled : inside ≠ [] := mt List.isEmpty_iff.2 filled
        rw [shape, List.head?_append_of_ne_nil _ filled] at unmarked
        exact ⟨⟨filled, unmarked, closes, none⟩, shape⟩
  · rintro ⟨⟨filled, unmarked, closes, none⟩, rfl⟩
    rw [fragmentFrom, List.head?_append_of_ne_nil _ filled, if_neg unmarked,
      balanced_of_closes closes none]
    simp [bind, Except.bind, filled]

/-- Why a bracket at `start` begins no fragment. -/
inductive FaultyFragment (start : Nat) : Text → SyntaxError → Prop
  | question (t : Text) : FaultyFragment start ('?' :: t) (.fragmentStartsWithQuestion (start + 1))
  | missing (t : Text) : FaultyFragment start (')' :: t) (.missingFragment start)
  | refused {t : Text} {e : SyntaxError} (unmarked : t.head? ≠ some '?') (filled : t.head? ≠ some ')')
      (refused : Refused start 0 (start + 1) t e) : FaultyFragment start t e

theorem faultyFragment_of_fragmentFrom (failed : fragmentFrom start t = .error e) :
    FaultyFragment start t e := by
  unfold fragmentFrom at failed
  split at failed
  · rename_i marked
    obtain ⟨rest, rfl⟩ := List.head?_eq_some_iff.1 marked
    obtain rfl := Except.error.inj failed
    exact .question rest
  · rename_i unmarked
    cases read : balanced start 0 (start + 1) t with
    | error e' =>
      rw [read] at failed
      obtain rfl := Except.error.inj failed
      refine .refused unmarked (fun first => ?_) (refused_of_balanced read)
      obtain ⟨rest, rfl⟩ := List.head?_eq_some_iff.1 first
      rw [balanced] at read
      cases read
    | ok found =>
      obtain ⟨inside, behind⟩ := found
      -- Only a fragment of no characters is refused behind its end.
      simp only [read, bind, Except.bind] at failed
      split at failed
      · rename_i blank
        obtain rfl := Except.error.inj failed
        rw [balanced_shape read, List.isEmpty_iff.1 blank]
        exact .missing behind
      · cases failed

/-- What stands behind the start of a text that closes brackets closes brackets as well. -/
theorem Closes.behind (whole : Whole inner) (closes : Closes depth (inner ++ t)) :
    ∃ depth', Closes depth' t := by
  induction whole generalizing depth with
  | nil => exact ⟨depth, closes⟩
  | pair c _ ih =>
    cases closes with
    | pair _ later => exact ih later
    | char bare _ => simp at bare
  | @char c s bare _ ih =>
    rw [List.cons_append] at closes
    generalize same : s ++ t = rest at closes
    cases closes with
    | pair _ _ => exact absurd rfl bare
    | opening later | closing later | char _ later => exact ih (same ▸ later)

/-- A group that opens in a fragment opens there whatever stands behind the fragment. -/
theorem IsFragment.not_capturesAt {f behind : Text} (isFragment : IsFragment f)
    (captures : CapturesAt (f ++ behind) inner) : ¬inner ++ ['('] <+: f := by
  rintro ⟨rest, rfl⟩
  obtain ⟨whole, rest', same, capturing⟩ := captures
  -- The group is closed in the fragment, so what is behind the fragment does not count.
  have ahead : rest ++ behind = rest' := by simpa using same
  have closes := isFragment.closes
  rw [List.append_assoc, List.singleton_append] at closes
  obtain ⟨depth, closes⟩ := closes.behind whole
  have closed : ')' ∈ rest := by
    cases closes with
    | opening later => exact later.mem_of_pos
    | char bare _ => simp at bare
  rw [← ahead, ← opensCapture_iff, opensCapture_append closed, opensCapture_iff] at capturing
  exact isFragment.captureless inner ⟨whole, rest, by simp, capturing⟩

theorem Refused.unique {e' : SyntaxError} (refused : Refused start depth index t e)
    (refused' : Refused start depth index t e') : e = e' := by
  cases refused with
  | capturing captures first _ =>
    cases refused' with
    | capturing captures' first' _ =>
      rw [(first _ captures').eq_of_length_le (first' _ captures).length_le]
    | endless none _ => exact absurd captures (none _)
  | endless none _ =>
    cases refused' with
    | capturing captures' _ _ => exact absurd captures' (none _)
    | endless _ _ => rfl

theorem fragmentFrom_eq_error_iff :
    fragmentFrom start t = .error e ↔ FaultyFragment start t e := by
  refine ⟨faultyFragment_of_fragmentFrom, fun faulty => ?_⟩
  cases faulty with
  | question rest => simp [fragmentFrom]
  | missing rest => simp [fragmentFrom, balanced, bind, Except.bind]
  | refused unmarked filled refused =>
    cases read : fragmentFrom start t with
    | ok found =>
      -- A fragment would end before the group that captures, or where nothing ends.
      obtain ⟨f, behind⟩ := found
      obtain ⟨isFragment, rfl⟩ := fragmentFrom_eq_ok_iff.1 read
      have ends : EndsAt 0 (f ++ ')' :: behind) f := ⟨isFragment.closes, behind, rfl⟩
      cases refused with
      | capturing captures _ before =>
        exact absurd (before f ends) (isFragment.not_capturesAt captures)
      | endless _ never => exact absurd ends (never f)
    | error e' =>
      cases faultyFragment_of_fragmentFrom read with
      | question rest => exact absurd rfl unmarked
      | missing rest => exact absurd rfl filled
      | refused _ _ refused' => rw [refused.unique refused']

end RoutePattern.Lexeme
