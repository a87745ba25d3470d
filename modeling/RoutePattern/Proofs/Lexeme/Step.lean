import RoutePattern.Proofs.Lexeme.Bracket
import RoutePattern.Proofs.Lexeme.Rendering

/-! # One lexeme at a time

What a pattern begins with, and what is read behind it. `Begins` has one constructor for each form of
lexeme, `Fault` one for each way in which there is none, and a text always has one of them in front
(`exists_begins`). So scanning goes on from lexeme to lexeme up to the end or to a fault
(`exists_scans`). Of what stands behind a lexeme only the next character counts, and only as far as it
would be part of a name (`Scans.before`).
-/

namespace RoutePattern.Lexeme

open Text (byteLength)

/-- The characters that begin a lexeme of another kind. -/
def signs : Text := [':', '*', '+', '?', '(', '{', '}', '\\']

/-- In front of `rest`, the text `head` is read as these lexemes. If `bound`, a modifier applies to what
stands before. -/
inductive Begins (rest : Text) : (bound : Bool) → (head : Text) → List Body → Prop
  | escaped (bound : Bool) (c : Char) : Begins rest bound ['\\', c] [.escaped c]
  | opening (bound : Bool) : Begins rest bound ['{'] [.opening]
  | closing (bound : Bool) : Begins rest bound ['}'] [.closing]
  | char (bound : Bool) {c : Char} (inert : c ∉ signs) : Begins rest bound [c] [.char c]
  | name (bound : Bool) {n : Text} (isName : IsName n rest) : Begins rest bound (':' :: n) [.name n]
  | fragment (bound : Bool) {f : Text} (isFragment : IsFragment f) :
      Begins rest bound ('(' :: f ++ [')']) [.fragment f]
  | modifier (bound : Bool) (m : Modifier)
      (long : m = .zeroOrMore → bound = false → ∀ c ∈ rest.head?, isNameChar c = false) :
      Begins rest bound [m.char] [.modifier m]
  | starred {n : Text} (isName : IsName n rest) :
      Begins rest false ('*' :: n) [.name n, .modifier .zeroOrMore]

/-- What is wrong with a text that begins with no lexeme. -/
inductive Fault (index : Nat) : Text → SyntaxError → Prop
  | escape : Fault index ['\\'] (.danglingEscape index)
  | name {t : Text} (nameless : ∀ c ∈ t.head?, isNameChar c = false) :
      Fault index (':' :: t) (.missingParameterName index)
  | fragment {t : Text} {e : SyntaxError} (faulty : FaultyFragment index t e) :
      Fault index ('(' :: t) e

/-- Whether a modifier applies to the last of these lexemes, or to what stands before if there is
none. -/
def boundBehind (bound : Bool) (bs : List Body) : Bool := bs.getLast?.elim bound (·.takesModifier)

variable {index : Nat} {bound : Bool} {head rest t n : Text} {bs : List Body} {e : SyntaxError}

/-! ## Names -/

theorem leadingName_append (isName : IsName n rest) : leadingName (n ++ rest) = n := by
  have stops : rest.takeWhile isNameChar = [] := by
    cases rest with
    | nil => rfl
    | cons c rest => simp [isName.maximal c rfl]
  rw [leadingName, List.takeWhile_append_of_pos isName.characters, stops, List.append_nil]

theorem behindName_append (isName : IsName n rest) : behindName (n ++ rest) = rest := by
  have whole := leadingName_behindName (n ++ rest)
  rw [leadingName_append isName] at whole
  exact List.append_cancel_left whole

theorem leadingName_eq_nil_iff : leadingName t = [] ↔ ∀ c ∈ t.head?, isNameChar c = false := by
  cases t <;> simp [leadingName, List.takeWhile_cons]

/-! ## What a lexeme looks at -/

/-- A text that begins with a name character replaces only a text that begins with the same one. -/
def Fits (rest rest' : Text) : Prop := ∀ c ∈ rest'.head?, isNameChar c = true → c ∈ rest.head?

theorem Fits.stops {rest' : Text} (fits : Fits rest rest')
    (stops : ∀ c ∈ rest.head?, isNameChar c = false) : ∀ c ∈ rest'.head?, isNameChar c = false := by
  intro c first
  cases isName : isNameChar c with
  | false => rfl
  | true =>
    rw [← isName]
    exact stops c (fits c first isName)

theorem Begins.before {rest' : Text} (begins : Begins rest bound head bs) (fits : Fits rest rest') :
    Begins rest' bound head bs := by
  cases begins with
  | escaped _ c => exact .escaped bound c
  | opening => exact .opening bound
  | closing => exact .closing bound
  | char _ inert => exact .char bound inert
  | name _ isName => exact .name bound ⟨isName.nonempty, isName.characters, fits.stops isName.maximal⟩
  | fragment _ isFragment => exact .fragment bound isFragment
  | modifier _ m long => exact .modifier bound m fun star free => fits.stops (long star free)
  | starred isName => exact .starred ⟨isName.nonempty, isName.characters, fits.stops isName.maximal⟩

theorem Begins.ne_nil (begins : Begins rest bound head bs) : head ≠ [] := by
  cases begins <;> simp

theorem ofChar?_char (m : Modifier) : Modifier.ofChar? m.char = some m := by cases m <;> rfl

theorem ofChar?_eq_none_iff {c : Char} :
    Modifier.ofChar? c = none ↔ c ≠ '?' ∧ c ≠ '*' ∧ c ≠ '+' := by
  unfold Modifier.ofChar?
  split <;> simp_all

/-- The lexemes at the start are read first. -/
theorem Begins.scanFrom_eq (begins : Begins rest bound head bs) (index : Nat) :
    scanFrom index bound (head ++ rest) =
      (scanFrom (index + byteLength head) (boundBehind bound bs) rest).map
        (bs.map (⟨index, ·⟩) ++ ·) := by
  cases begins with
  | escaped _ c =>
    rw [List.cons_append, List.cons_append, scanFrom, bind_ok_eq_map, Nat.add_assoc]
    rfl
  | opening | closing =>
    rw [List.cons_append, scanFrom, bind_ok_eq_map]
    rfl
  | char _ inert =>
    simp only [signs, List.mem_cons, List.not_mem_nil, or_false, not_or] at inert
    obtain ⟨colon, star, plus, question, bracket, opening, closing, escape⟩ := inert
    rw [List.cons_append, scanFrom, ofChar?_eq_none_iff.2 ⟨question, star, plus⟩]
    · exact bind_ok_eq_map _ _
    all_goals assumption
  | @name _ n isName =>
    have present : ¬n.isEmpty := mt List.isEmpty_iff.1 isName.nonempty
    rw [List.cons_append, scanFrom, leadingName_append isName, behindName_append isName,
      if_neg present, bind_ok_eq_map, Nat.add_assoc]
    rfl
  | @fragment _ f isFragment =>
    have read : fragmentFrom index (f ++ ')' :: rest) = .ok (f, rest) :=
      fragmentFrom_eq_ok_iff.2 ⟨isFragment, rfl⟩
    rw [byteLength_fragment, List.append_assoc, List.cons_append, List.singleton_append, scanFrom]
    split
    · rename_i failed
      rw [read] at failed
      cases failed
    · rename_i inside behind closed
      rw [read] at closed
      obtain ⟨rfl, rfl⟩ := Prod.mk.inj (Except.ok.inj closed)
      rw [bind_ok_eq_map, Nat.add_assoc]
      rfl
  | modifier _ m long =>
    -- A star with nothing to apply to has no name behind it, so it is not the short form.
    have free : ¬(decide (m = .zeroOrMore) && !bound && !(leadingName rest).isEmpty) = true := by
      intro short
      simp only [Bool.and_eq_true, decide_eq_true_eq, Bool.not_eq_true'] at short
      obtain ⟨⟨star, free⟩, named⟩ := short
      rw [leadingName_eq_nil_iff.2 (long star free)] at named
      cases named
    rw [List.cons_append, List.nil_append, scanFrom, ofChar?_char]
    · simp only [if_neg free, bind_ok_eq_map, Text.byteLength_cons, utf8Size_modifier]
      rfl
    all_goals cases m <;> decide
  | @starred n isName =>
    have present : n.isEmpty = false := by simpa using isName.nonempty
    rw [List.cons_append, scanFrom]
    · simp only [Modifier.ofChar?, leadingName_append isName, behindName_append isName, present,
        decide_true, Bool.not_false, Bool.and_self, if_true, bind_ok_eq_map, Nat.add_assoc]
      rfl
    all_goals decide

/-- A text with a fault in front begins with no name character. -/
theorem Fault.fits (fault : Fault index t e) : Fits [] t := by
  cases fault <;> simp [Fits, isNameChar]

/-- A fault stops the scanning. -/
theorem Fault.scanFrom_eq (fault : Fault index t e) (bound : Bool) :
    scanFrom index bound t = .error e := by
  cases fault with
  | escape => rw [scanFrom]
  | name nameless =>
    rw [scanFrom, leadingName_eq_nil_iff.2 nameless]
    rfl
  | fragment faulty =>
    have failed := fragmentFrom_eq_error_iff.2 faulty
    rw [scanFrom]
    split
    · rename_i read
      rw [failed] at read
      obtain rfl := Except.error.inj read
      rfl
    · rename_i read
      rw [failed] at read
      cases read

/-- A text begins with a lexeme unless it has a fault in front. -/
theorem exists_begins (index : Nat) (bound : Bool) (filled : t ≠ []) :
    (∃ head rest bs, t = head ++ rest ∧ Begins rest bound head bs) ∨ ∃ e, Fault index t e := by
  fun_cases scanFrom index bound t with
  | case1 => exact absurd rfl filled
  | case2 => exact .inr ⟨_, .escape⟩
  | case3 c rest => exact .inl ⟨['\\', c], rest, _, rfl, .escaped bound c⟩
  | case4 rest => exact .inl ⟨['{'], rest, _, rfl, .opening bound⟩
  | case5 rest => exact .inl ⟨['}'], rest, _, rfl, .closing bound⟩
  | case6 rest name nameless =>
    exact .inr ⟨_, .name (leadingName_eq_nil_iff.1 (List.isEmpty_iff.1 nameless))⟩
  | case7 rest name present =>
    have isName := isName_leadingName (mt List.isEmpty_iff.2 present)
    refine .inl ⟨':' :: name, behindName rest, _, ?_, .name bound isName⟩
    rw [List.cons_append, leadingName_behindName]
  | case8 rest e failed => exact .inr ⟨e, .fragment (fragmentFrom_eq_error_iff.1 failed)⟩
  | case9 rest inside behind closed =>
    obtain ⟨isFragment, rfl⟩ := fragmentFrom_eq_ok_iff.1 closed
    exact .inl ⟨'(' :: inside ++ [')'], behind, _, by simp, .fragment bound isFragment⟩
  | case10 rest c _ _ _ _ _ m found name short =>
    simp only [Bool.and_eq_true, decide_eq_true_eq, Bool.not_eq_true'] at short
    obtain ⟨⟨rfl, rfl⟩, present⟩ := short
    obtain rfl := char_of_ofChar? found
    have isName := isName_leadingName (mt List.isEmpty_iff.2 (by simpa using present))
    refine .inl ⟨'*' :: name, behindName rest, _, ?_, .starred isName⟩
    rw [List.cons_append, leadingName_behindName]
    rfl
  | case11 rest c _ _ _ _ _ m found name long =>
    obtain rfl := char_of_ofChar? found
    refine .inl ⟨[m.char], rest, _, rfl, .modifier bound m fun star free => ?_⟩
    rw [← leadingName_eq_nil_iff, ← List.isEmpty_iff]
    simpa [star, free] using long
  | case12 rest c escape opening closing colon bracket none =>
    have inert : c ∉ signs := by simp_all [signs, ofChar?_eq_none_iff]
    exact .inl ⟨[c], rest, _, rfl, .char bound inert⟩

/-! ## One lexeme after another -/

/-- In front of `behind`, the text is read as these lexemes. They leave it at `final` whether a modifier
applies to what stands before. -/
inductive Scans (behind : Text) : Nat → (bound : Bool) → Text → List Lexeme → (final : Bool) → Prop
  | nil (index : Nat) (bound : Bool) : Scans behind index bound [] [] bound
  | step {index : Nat} {bound final : Bool} {head rest : Text} {bs : List Body} {ls : List Lexeme}
      (begins : Begins (rest ++ behind) bound head bs)
      (later : Scans behind (index + byteLength head) (boundBehind bound bs) rest ls final) :
      Scans behind index bound (head ++ rest) (bs.map (⟨index, ·⟩) ++ ls) final

section Scans

variable {behind behind' : Text} {final : Bool} {ls : List Lexeme}

/-- What is read as lexemes is read first. -/
theorem Scans.scanFrom_eq (scans : Scans behind index bound t ls final) :
    scanFrom index bound (t ++ behind) =
      (scanFrom (index + byteLength t) final behind).map (ls ++ ·) := by
  induction scans with
  | nil index bound =>
    -- Nothing has been read.
    rw [List.nil_append, Text.byteLength_nil, Nat.add_zero]
    cases scanFrom index bound behind <;> rfl
  | @step index bound final head rest bs ls begins later ih =>
    rw [List.append_assoc, begins.scanFrom_eq, ih, except_map_map, Text.byteLength_append, Nat.add_assoc]
    congr 1
    funext ls'
    exact (List.append_assoc ..).symm

theorem Fits.append (fits : Fits behind behind') (rest : Text) :
    Fits (rest ++ behind) (rest ++ behind') := by
  cases rest with
  | nil => exact fits
  | cons c rest => exact fun _ first _ => first

/-- What stands behind may be replaced. -/
theorem Scans.before (scans : Scans behind index bound t ls final) (fits : Fits behind behind') :
    Scans behind' index bound t ls final := by
  induction scans with
  | nil index bound => exact .nil index bound
  | step begins _ ih => exact .step (begins.before (fits.append _)) ih

theorem fits_nil (behind : Text) : Fits behind [] := nofun

/-- The same lexemes are read somewhere else. -/
theorem Scans.elsewhere (scans : Scans behind index bound t ls final) (index' : Nat) :
    ∃ ls', Scans behind index' bound t ls' final ∧ ls'.map (·.body) = ls.map (·.body) := by
  induction scans generalizing index' with
  | nil _ bound => exact ⟨[], .nil index' bound, rfl⟩
  | @step index bound final head rest bs ls begins _ ih =>
    obtain ⟨ls', later, same⟩ := ih (index' + byteLength head)
    exact ⟨_, .step begins later, by simp [same]⟩

theorem boundBehind_append (bound : Bool) (bs cs : List Body) :
    boundBehind bound (bs ++ cs) = boundBehind (boundBehind bound bs) cs := by
  rw [boundBehind, boundBehind, List.getLast?_append]
  cases cs.getLast? <;> rfl

theorem Scans.final_eq (scans : Scans behind index bound t ls final) :
    final = boundBehind bound (ls.map (·.body)) := by
  induction scans with
  | nil index bound => rfl
  | step begins later ih => simp [ih, boundBehind_append, Function.comp_def]

/-- A text is read up to its end or to a fault. -/
theorem exists_scans (index : Nat) (bound : Bool) (t : Text) :
    ∃ before rest ls final, t = before ++ rest ∧ Scans rest index bound before ls final ∧
      (rest = [] ∨ ∃ e, Fault (index + byteLength before) rest e) := by
  by_cases blank : t = []
  · exact ⟨[], [], [], bound, blank, .nil index bound, .inl rfl⟩
  · rcases exists_begins index bound blank with ⟨head, rest, bs, same, begins⟩ | ⟨e, fault⟩
    · -- A lexeme takes at least one character, so what follows it is shorter.
      have shorter : rest.length < t.length := by
        have filled := List.length_pos_iff.2 begins.ne_nil
        rw [same, List.length_append]
        omega
      obtain ⟨before, rest', ls, final, rfl, later, stops⟩ :=
        exists_scans (index + byteLength head) (boundBehind bound bs) rest
      refine ⟨head ++ before, rest', _, final, by simp [same], .step begins later, ?_⟩
      rwa [Text.byteLength_append, ← Nat.add_assoc]
    · exact ⟨[], t, [], bound, rfl, .nil index bound, .inr ⟨e, fault⟩⟩
termination_by t.length

theorem scanFrom_eq_ok_iff :
    scanFrom index bound t = .ok ls ↔ ∃ inner final, Scans [] index bound t inner final ∧
      ls = inner ++ [⟨index + byteLength t, .finish⟩] := by
  constructor
  · intro scanned
    obtain ⟨before, rest, inner, final, rfl, scans, rfl | ⟨e, fault⟩⟩ := exists_scans index bound t
    · refine ⟨inner, final, by simpa using scans, ?_⟩
      rw [scans.scanFrom_eq, scanFrom] at scanned
      simpa using (Except.ok.inj scanned).symm
    · rw [scans.scanFrom_eq, fault.scanFrom_eq] at scanned
      cases scanned
  · rintro ⟨inner, final, scans, rfl⟩
    have read := scans.scanFrom_eq
    rw [List.append_nil, scanFrom] at read
    exact read

end Scans

/-! ## Whole patterns -/

/-- Scanning fails just at the first place where no lexeme begins: what stands before it is scanned on
its own, and the error names the place and what is wrong there. -/
theorem scan_eq_error_iff {pattern : Text} :
    scan pattern = .error e ↔ ∃ before rest ls, pattern = before ++ rest ∧ scan before = .ok ls ∧
      Fault (byteLength before) rest e := by
  constructor
  · intro failed
    obtain ⟨before, rest, inner, final, rfl, scans, stops⟩ := exists_scans 0 false pattern
    rw [scan, scans.scanFrom_eq] at failed
    rcases stops with rfl | ⟨e', fault⟩
    · rw [scanFrom] at failed
      cases failed
    · rw [fault.scanFrom_eq] at failed
      obtain rfl := Except.error.inj failed
      -- On its own, the part before the fault has nothing behind it that could go on a name.
      have alone := scans.before (fits_nil rest)
      rw [Nat.zero_add] at fault
      exact ⟨before, rest, _, rfl, scanFrom_eq_ok_iff.2 ⟨inner, final, alone, rfl⟩, fault⟩
  · rintro ⟨before, rest, ls, rfl, scanned, fault⟩
    obtain ⟨inner, final, scans, -⟩ := scanFrom_eq_ok_iff.1 scanned
    -- Nor does a fault begin with a character that could.
    rw [scan, (scans.before fault.fits).scanFrom_eq, Nat.zero_add, fault.scanFrom_eq]
    rfl

end RoutePattern.Lexeme
