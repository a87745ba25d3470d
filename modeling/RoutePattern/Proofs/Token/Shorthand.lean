import RoutePattern.Proofs.Lexeme.Step
import RoutePattern.Token.Reader

/-! # The short form of a name with a star

A star before a name is short for the name with a star behind it, wherever it may be written
(`Token.ofPattern?_starred`). The two forms have the same lexemes at other places, and places are the
only difference that they make: `unplaced` forgets them, and each step of reading a pattern goes
along with it.
-/

namespace RoutePattern

/-- A lexeme as it is wherever it stands. -/
def Lexeme.unplaced (l : Lexeme) : Lexeme := { l with index := 0 }

namespace SyntaxError

/-- An error as it is wherever it was found. -/
def unplaced : SyntaxError → SyntaxError
  | missingParameterName _ => missingParameterName 0
  | fragmentStartsWithQuestion _ => fragmentStartsWithQuestion 0
  | capturingGroup _ => capturingGroup 0
  | unbalancedFragment _ => unbalancedFragment 0
  | missingFragment _ => missingFragment 0
  | danglingEscape _ => danglingEscape 0
  | unexpected found expected => unexpected found.unplaced expected
  | invalidExpression source => invalidExpression source

end SyntaxError

/-! ## Scanning -/

namespace Lexeme

open Text (byteLength)

variable {index : Nat} {t : Text} {e : SyntaxError}

/-- What is scanned, without the places. -/
def unplacedAll (scanned : Except SyntaxError (List Lexeme)) : Except SyntaxError (List Lexeme) :=
  (scanned.map (·.map unplaced)).mapError (·.unplaced)

theorem Refused.elsewhere {start depth : Nat} (refused : Refused start depth index t e)
    (start' index' : Nat) : ∃ e', Refused start' depth index' t e' ∧ e'.unplaced = e.unplaced := by
  cases refused with
  | capturing captures first before => exact ⟨_, .capturing captures first before, rfl⟩
  | endless none never => exact ⟨_, .endless none never, rfl⟩

/-- The same fault is found somewhere else. -/
theorem Fault.elsewhere (fault : Fault index t e) (index' : Nat) :
    ∃ e', Fault index' t e' ∧ e'.unplaced = e.unplaced := by
  cases fault with
  | escape => exact ⟨_, .escape, rfl⟩
  | name nameless => exact ⟨_, .name nameless, rfl⟩
  | fragment faulty =>
    cases faulty with
    | question t => exact ⟨_, .fragment (.question t), rfl⟩
    | missing t => exact ⟨_, .fragment (.missing t), rfl⟩
    | refused unmarked filled refused =>
      obtain ⟨e', refused', same⟩ := refused.elsewhere index' (index' + 1)
      exact ⟨e', .fragment (.refused unmarked filled refused'), same⟩

theorem map_unplaced_eq {ls ls' : List Lexeme} (same : ls.map (·.body) = ls'.map (·.body)) :
    ls.map unplaced = ls'.map unplaced := by
  have erased : ∀ ls : List Lexeme, ls.map unplaced = (ls.map (·.body)).map (⟨0, ·⟩) := by
    intro ls
    simp [unplaced, Function.comp_def]
  rw [erased, erased, same]

theorem unplacedAll_scanFrom (index index' : Nat) (bound : Bool) (t : Text) :
    unplacedAll (scanFrom index bound t) = unplacedAll (scanFrom index' bound t) := by
  obtain ⟨before, rest, ls, final, rfl, scans, stops⟩ := exists_scans index bound t
  obtain ⟨ls', scans', same⟩ := scans.elsewhere index'
  rw [scans.scanFrom_eq, scans'.scanFrom_eq]
  -- Both texts end here, or both have a fault here.
  rcases stops with rfl | ⟨e, fault⟩
  · have same := map_unplaced_eq same
    rw [scanFrom, scanFrom]
    simp [unplacedAll, Except.map, Except.mapError, same, unplaced]
  · obtain ⟨e', fault', alike⟩ := fault.elsewhere (index' + byteLength before)
    rw [fault.scanFrom_eq, fault'.scanFrom_eq]
    simp [unplacedAll, Except.map, Except.mapError, alike]

theorem unplacedAll_append (ls : List Lexeme) (scanned : Except SyntaxError (List Lexeme)) :
    unplacedAll (scanned.map (ls ++ ·)) = (unplacedAll scanned).map (ls.map unplaced ++ ·) := by
  cases scanned with
  | error e => rfl
  | ok later => simp [unplacedAll, Except.map, Except.mapError]

variable {p q n : Text} {ls : List Lexeme} {bound final : Bool}

theorem Scans.unplacedAll_eq (scans : Scans q index bound p ls final) :
    unplacedAll (scanFrom index bound (p ++ q)) =
      (unplacedAll (scanFrom 0 final q)).map (ls.map unplaced ++ ·) := by
  rw [scans.scanFrom_eq, unplacedAll_append, unplacedAll_scanFrom _ 0]

/-- A star before a name has the same lexemes as a star behind it. -/
theorem unplacedAll_starred (isName : IsName n q) (index index' : Nat) :
    unplacedAll (scanFrom index false ('*' :: n ++ q)) =
      unplacedAll (scanFrom index' false (':' :: n ++ '*' :: q)) := by
  -- Behind a name a star is a modifier, whatever follows it.
  have behind : IsName n ('*' :: q) := ⟨isName.nonempty, isName.characters, by simp; decide⟩
  have short : Scans q index false ('*' :: n ++ []) _ false := .step (.starred isName) (.nil _ _)
  have long : Scans q index' false (':' :: n ++ (['*'] ++ [])) _ false :=
    .step (.name false behind) (.step (.modifier true .zeroOrMore nofun) (.nil _ _))
  have short := short.unplacedAll_eq
  have long := long.unplacedAll_eq
  rw [List.append_nil] at short long
  rw [List.append_assoc, List.singleton_append] at long
  rw [short, long]
  rfl

end Lexeme

/-! ## Reading -/

namespace Phrase

variable (ls : List Lexeme) (l : Lexeme)

/-- What is read at the start, without the places. -/
def unplacedRest (read : Except SyntaxError (Phrase × List Lexeme)) :
    Except SyntaxError (Phrase × List Lexeme) :=
  (read.map (Prod.map id (·.map Lexeme.unplaced))).mapError (·.unplaced)

theorem charOf?_unplaced : charOf? l.unplaced = charOf? l := by
  obtain ⟨index, body⟩ := l
  cases body <;> rfl

theorem charOf?_comp_unplaced : charOf? ∘ Lexeme.unplaced = charOf? := funext charOf?_unplaced

theorem leadingText_unplaced : leadingText (ls.map Lexeme.unplaced) = leadingText ls := by
  rw [leadingText, leadingText, List.takeWhile_map, List.filterMap_map, charOf?_comp_unplaced]
  simp [Function.comp_def, charOf?_unplaced]

theorem behindText_unplaced :
    behindText (ls.map Lexeme.unplaced) = (behindText ls).map Lexeme.unplaced := by
  rw [behindText, behindText, List.dropWhile_map]
  simp [Function.comp_def, charOf?_unplaced]

theorem leadingFragment?_unplaced : leadingFragment? (ls.map Lexeme.unplaced) =
    Prod.map id (·.map Lexeme.unplaced) (leadingFragment? ls) := by
  rcases ls with _ | ⟨⟨index, body⟩, ls⟩
  · rfl
  · cases body <;> rfl

theorem leadingSlot?_unplaced : leadingSlot? (ls.map Lexeme.unplaced) =
    Prod.map id (·.map Lexeme.unplaced) (leadingSlot? ls) := by
  rcases ls with _ | ⟨⟨index, body⟩, ls⟩
  · rfl
  · cases body with
    | name n =>
      have behind := leadingFragment?_unplaced ls
      rw [List.map_cons, Lexeme.unplaced, leadingSlot?, leadingSlot?, behind]
      rfl
    | _ => rfl

theorem leadingModifier?_unplaced : leadingModifier? (ls.map Lexeme.unplaced) =
    Prod.map id (·.map Lexeme.unplaced) (leadingModifier? ls) := by
  rcases ls with _ | ⟨⟨index, body⟩, ls⟩
  · rfl
  · cases body <;> rfl

theorem groupFrom_unplaced :
    groupFrom (ls.map Lexeme.unplaced) = unplacedRest (groupFrom ls) := by
  rw [groupFrom, groupFrom, behindText_unplaced, leadingSlot?_unplaced, leadingText_unplaced]
  obtain ⟨slot, rest⟩ := leadingSlot? (behindText ls)
  simp only [Prod.map, id, behindText_unplaced, leadingText_unplaced]
  rcases behindText rest with _ | ⟨⟨index, body⟩, behind⟩
  · rfl
  · cases body with
    | closing =>
      simp only [List.map_cons, Lexeme.unplaced]
      rw [leadingModifier?_unplaced]
      rfl
    | _ => rfl

theorem next_unplaced :
    next l.unplaced (ls.map Lexeme.unplaced) = unplacedRest (next l ls) := by
  obtain ⟨index, body⟩ := l
  cases body with
  | name n =>
    simp only [next, Lexeme.unplaced, leadingFragment?_unplaced, Prod.map, leadingModifier?_unplaced]
    rfl
  | fragment f =>
    simp only [next, Lexeme.unplaced, leadingModifier?_unplaced]
    rfl
  | opening => exact groupFrom_unplaced ls
  | _ => rfl

theorem ofLexemes_unplaced :
    ofLexemes (ls.map Lexeme.unplaced) = (ofLexemes ls).mapError (·.unplaced) := by
  fun_induction ofLexemes ls with
  | case1 => rw [List.map_nil, ofLexemes]; rfl
  | case2 l rest mark =>
    have mark' : l.unplaced.body = .finish := mark
    rw [List.map_cons, ofLexemes, if_pos mark']
    rfl
  | case3 l rest goes e failed =>
    have goes' : l.unplaced.body ≠ .finish := goes
    have failed' := next_unplaced rest l
    rw [failed] at failed'
    rw [List.map_cons, ofLexemes, if_neg goes']
    split
    · rename_i read
      rw [failed'] at read
      cases read
      rfl
    · rename_i read
      rw [failed'] at read
      cases read
  | case4 l rest goes p behind read ih =>
    have goes' : l.unplaced.body ≠ .finish := goes
    have read' := next_unplaced rest l
    rw [read] at read'
    rw [List.map_cons, ofLexemes, if_neg goes']
    split
    · rename_i failed
      rw [read'] at failed
      cases failed
    · rename_i found
      rw [read'] at found
      cases found
      rw [ih]
      cases ofLexemes behind <;> rfl

end Phrase

namespace Token

theorem ofPattern?_unplaced (o : Options) (pattern : Text) :
    (ofPattern? o pattern).mapError (·.unplaced) =
      (Lexeme.unplacedAll (Lexeme.scan pattern) >>= Phrase.ofLexemes).map (ofPhrases o 0 []) := by
  rw [ofPattern?, Lexeme.unplacedAll]
  cases Lexeme.scan pattern with
  | error e => rfl
  | ok ls =>
    have read : Phrase.ofLexemes (ls.map (·.unplaced)) = _ := Phrase.ofLexemes_unplaced ls
    simp only [Except.map, Except.mapError, bind, Except.bind, read]
    cases Phrase.ofLexemes ls <;> rfl

/-- Where no parameter and no group ends, a star before a name is short for the name with a star behind
it: the tokens are the same, or the pattern is refused for the same reason. -/
theorem ofPattern?_starred (o : Options) {p n q : Text} {ls : List Lexeme} {last : Lexeme}
    (scanned : Lexeme.scan p = .ok (ls ++ [last]))
    (free : ∀ l ∈ ls.getLast?, l.body.takesModifier = false) (isName : Lexeme.IsName n q) :
    (ofPattern? o (p ++ '*' :: n ++ q)).mapError (·.unplaced) =
      (ofPattern? o (p ++ ':' :: n ++ '*' :: q)).mapError (·.unplaced) := by
  obtain ⟨inner, final, scans, same⟩ := Lexeme.scanFrom_eq_ok_iff.1 scanned
  obtain ⟨rfl, -⟩ := List.append_inj' same rfl
  have unbound : final = false := by
    rw [scans.final_eq, Lexeme.boundBehind, List.getLast?_map]
    cases behind : ls.getLast? with
    | none => rfl
    | some l => exact free l behind
  subst unbound
  -- Neither sign goes on a name, so `p` is read in front of both as it is read alone.
  have star : Lexeme.Scans ('*' :: n ++ q) 0 false p ls false :=
    scans.before (by simp [Lexeme.Fits]; decide)
  have colon : Lexeme.Scans (':' :: n ++ '*' :: q) 0 false p ls false :=
    scans.before (by simp [Lexeme.Fits]; decide)
  rw [ofPattern?_unplaced, ofPattern?_unplaced, List.append_assoc, List.append_assoc, Lexeme.scan,
    Lexeme.scan, star.unplacedAll_eq, colon.unplacedAll_eq, Lexeme.unplacedAll_starred isName 0 0]

theorem ofPattern?_starred_rest :
    Lexeme.scan "/{a}-".toList = .ok ([⟨0, .char '/'⟩, ⟨1, .opening⟩, ⟨2, .char 'a'⟩, ⟨3, .closing⟩,
      ⟨4, .char '-'⟩] ++ [⟨5, .finish⟩]) ∧ Lexeme.IsName "rest".toList "{.:ext}?".toList ∧
    (ofPattern? {} "/{a}-*rest{.:ext}?".toList).mapError (·.unplaced) =
      (ofPattern? {} "/{a}-:rest*{.:ext}?".toList).mapError (·.unplaced) := by
  have scanned : Lexeme.scan "/{a}-".toList = .ok ([⟨0, .char '/'⟩, ⟨1, .opening⟩, ⟨2, .char 'a'⟩,
      ⟨3, .closing⟩, ⟨4, .char '-'⟩] ++ [⟨5, .finish⟩]) := by decide +kernel
  have isName : Lexeme.IsName "rest".toList "{.:ext}?".toList :=
    ⟨by simp, by simp [Lexeme.isNameChar], by simp [Lexeme.isNameChar]⟩
  exact ⟨scanned, isName, ofPattern?_starred {} scanned (by decide) isName⟩

end Token

end RoutePattern
