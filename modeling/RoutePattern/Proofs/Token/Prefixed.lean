import RoutePattern.Proofs.Lexeme.Step
import RoutePattern.Proofs.Token.Plain

/-! # Patterns behind a text

A text whose characters are nothing but themselves may be put before a pattern. The pattern is scanned
behind it as it is alone (`withoutFragments_append`), and if no parameter can take the last character of
the text, the tokens begin with a text that begins with it (`exists_ofPattern?_append`).
-/

namespace RoutePattern

open Text (byteLength)

namespace Lexeme

/-- The characters that are more than themselves in a pattern. -/
def marks : Text := [':', '*', '+', '?', '(', ')', '{', '}', '\\']

/-- A text that stands for itself in a pattern. -/
def Inert (t : Text) : Prop := ∀ c ∈ t, c ∉ marks

instance (t : Text) : Decidable (Inert t) := List.decidableBAll (· ∉ marks) t

/-- The lexemes of a text that stands for itself. -/
def charsAt (index : Nat) : Text → List Lexeme
  | [] => []
  | c :: t => ⟨index, .char c⟩ :: charsAt (index + c.utf8Size) t

/-! ## Scanning somewhere else -/

/-- Where a text is scanned makes a difference to the indices alone. -/
theorem scanFrom_elsewhere {index : Nat} {bound : Bool} {t : Text} {ls : List Lexeme}
    (scanned : scanFrom index bound t = .ok ls) (index' : Nat) :
    ∃ ls', scanFrom index' bound t = .ok ls' ∧ ls'.map (·.body) = ls.map (·.body) := by
  obtain ⟨inner, final, scans, rfl⟩ := scanFrom_eq_ok_iff.1 scanned
  obtain ⟨inner', scans', same⟩ := scans.elsewhere index'
  exact ⟨_, scanFrom_eq_ok_iff.2 ⟨inner', final, scans', rfl⟩, by simp [same]⟩

/-! ## Scanning behind a text -/

theorem scanFrom_char {c : Char} (inert : c ∉ marks) (index : Nat) (bound : Bool) (rest : Text) :
    scanFrom index bound (c :: rest) =
      (scanFrom (index + c.utf8Size) false rest).map (⟨index, .char c⟩ :: ·) := by
  have listed : signs ⊆ marks := by decide
  have begins : Begins rest bound [c] [.char c] := .char bound (mt (@listed c) inert)
  exact begins.scanFrom_eq index

theorem exists_scanFrom_append {q rest : Text} (inert : Inert q) {index : Nat} {ls : List Lexeme}
    (scanned : scanFrom index false (q ++ rest) = .ok ls) :
    ∃ ls', scanFrom (index + byteLength q) false rest = .ok ls' ∧ ls = charsAt index q ++ ls' := by
  induction q generalizing index ls with
  | nil => exact ⟨ls, scanned, rfl⟩
  | cons c q ih =>
    rw [Inert, List.forall_mem_cons] at inert
    rw [List.cons_append, scanFrom_char inert.1] at scanned
    obtain ⟨later, read, rfl⟩ := map_eq_ok_iff.1 scanned
    obtain ⟨ls', behind, rfl⟩ := ih inert.2 read
    exact ⟨ls', by rwa [Text.byteLength_cons, ← Nat.add_assoc], rfl⟩

theorem isFragment_congr {l l' : Lexeme} (same : l.body = l'.body) : l.isFragment = l'.isFragment := by
  rw [isFragment, isFragment, same]

theorem isFragment_charsAt {index : Nat} {t : Text} :
    ∀ l ∈ charsAt index t, l.isFragment = false := by
  induction t generalizing index with
  | nil => exact fun l member => absurd member List.not_mem_nil
  | cons c t ih => exact List.forall_mem_cons.2 ⟨rfl, ih⟩

/-- A text that stands for itself brings no fragment along. -/
theorem withoutFragments_append {q pattern : Text} (inert : Inert q)
    (plain : withoutFragments pattern = true) : withoutFragments (q ++ pattern) = true := by
  unfold withoutFragments
  cases scanned : scan (q ++ pattern) with
  | error e => rfl
  | ok ls =>
    obtain ⟨ls', behind, rfl⟩ := exists_scanFrom_append inert scanned
    obtain ⟨alone, scanned', same⟩ := scanFrom_elsewhere behind 0
    have plain' : ∀ l ∈ alone, l.isFragment = false := by
      have scanned' : scan pattern = .ok alone := scanned'
      simpa [withoutFragments, scanned'] using plain
    simp only [List.all_append, Bool.and_eq_true, List.all_eq_true]
    refine ⟨fun l member => by rw [isFragment_charsAt l member]; rfl, fun l member => ?_⟩
    · have listed : l.body ∈ alone.map (·.body) := same ▸ List.mem_map_of_mem member
      obtain ⟨l', member', body⟩ := List.mem_map.1 listed
      rw [← isFragment_congr body, plain' l' member']
      rfl

end Lexeme

/-! ## Phrases and tokens behind a text -/

namespace Phrase

theorem ofLexemes_char (index : Nat) (c : Char) (ls : List Lexeme) :
    ofLexemes (⟨index, .char c⟩ :: ls) = (ofLexemes ls).map (.char c :: ·) := by
  rw [ofLexemes]
  simp [next]

theorem ofLexemes_charsAt (index : Nat) (q : Text) (ls : List Lexeme) :
    ofLexemes (Lexeme.charsAt index q ++ ls) = (ofLexemes ls).map (q.map .char ++ ·) := by
  induction q generalizing index with
  | nil =>
    rw [Lexeme.charsAt, List.nil_append]
    cases ofLexemes ls <;> rfl
  | cons c q ih =>
    rw [Lexeme.charsAt, List.cons_append, ofLexemes_char, ih]
    cases ofLexemes ls <;> rfl

end Phrase

namespace Token

variable {o : Options}

theorem ofText_of_ne_nil {t : Text} (filled : t ≠ []) : ofText t = [.text t] := by
  simp [ofText, filled]

/-- A text that is open is the start of the first token. -/
theorem exists_ofPhrases_pending {pending : Text} (filled : pending ≠ []) (ordinal : Nat)
    (ps : List Phrase) :
    ∃ more ts, ofPhrases o ordinal pending ps = .text (pending.reverse ++ more) :: ts := by
  have text {pending : Text} (filled : pending ≠ []) :
      ofText pending.reverse = [.text pending.reverse] :=
    ofText_of_ne_nil (by simpa using filled)
  fun_induction ofPhrases o ordinal pending ps with
  | case1 => exact ⟨[], [], by rw [text filled, List.append_nil]⟩
  | case2 | case6 | case7 | case8 =>
    exact ⟨[], _, by rw [text filled, List.append_nil]; rfl⟩
  | case3 => exact ⟨[_], _, by rw [text (List.cons_ne_nil _ _), List.reverse_cons]; rfl⟩
  | case4 ordinal pending c rest _ ih | case5 ordinal pending c rest ih =>
    obtain ⟨more, ts, same⟩ := ih (List.cons_ne_nil _ _)
    exact ⟨c :: more, ts, by simp [same]⟩

theorem ofPhrases_char {ps : List Phrase} (other : ∀ slot m rest, ps ≠ .param slot m :: rest)
    (ordinal : Nat) (pending : Text) (c : Char) :
    ofPhrases o ordinal pending (.char c :: ps) = ofPhrases o ordinal (c :: pending) ps := by
  rw [ofPhrases]
  exact other

/-- A text whose last character no parameter takes is the start of the first token. -/
theorem exists_ofPhrases_append {q : Text} (filled : q ≠ []) (kept : ∀ c ∈ q.getLast?, c ∉ o.prefixes)
    (ordinal : Nat) (pending : Text) (ps : List Phrase) :
    ∃ more ts, ofPhrases o ordinal pending (q.map .char ++ ps) =
      .text (pending.reverse ++ q ++ more) :: ts := by
  induction q generalizing pending with
  | nil => exact absurd rfl filled
  | cons c q ih =>
    cases q with
    | cons c' q =>
      rw [List.map_cons, List.cons_append, ofPhrases_char (by simp)]
      obtain ⟨more, ts, same⟩ := ih (by simp) (by simpa using kept) (c :: pending)
      exact ⟨more, ts, by rw [same]; simp⟩
    | nil =>
      have last : ¬o.prefixes.contains c = true := by simpa using kept c rfl
      rw [List.map_singleton, List.singleton_append]
      by_cases param : ∃ slot m rest, ps = .param slot m :: rest
      · obtain ⟨slot, m, rest, rfl⟩ := param
        simp only [ofPhrases, if_neg last]
        exact ⟨[], _, by rw [ofText_of_ne_nil (by simp), List.reverse_cons, List.append_nil]; rfl⟩
      · rw [ofPhrases_char fun slot m rest same => param ⟨slot, m, rest, same⟩,
          ← List.reverse_cons]
        exact exists_ofPhrases_pending (List.cons_ne_nil c pending) ordinal ps

/-- A pattern behind such a text. -/
theorem exists_ofPattern?_append {q rest : Text} (inert : Lexeme.Inert q) (filled : q ≠ [])
    (kept : ∀ c ∈ q.getLast?, c ∉ o.prefixes) {ts : List Token}
    (read : ofPattern? o (q ++ rest) = .ok ts) : ∃ more ts', ts = .text (q ++ more) :: ts' := by
  obtain ⟨ls, ps, scanned, phrases, rfl⟩ := ofPattern?_eq_ok_iff.1 read
  obtain ⟨ls', -, rfl⟩ := Lexeme.exists_scanFrom_append inert scanned
  rw [Phrase.ofLexemes_charsAt] at phrases
  obtain ⟨ps', -, rfl⟩ := map_eq_ok_iff.1 phrases
  exact exists_ofPhrases_append filled kept 0 [] ps'

end Token

end RoutePattern
