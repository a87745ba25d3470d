import RoutePattern.Proofs.Except
import RoutePattern.Proofs.Lexeme.Rendering
import RoutePattern.Proofs.Token.Grammar
import RoutePattern.Token.Reader

/-! # Reading phrases

Reading a pattern goes the way of the automaton of the grammar: it succeeds on sentences, and where the
automaton cannot go on the error names the lexeme (`ofPattern?_iff_sentence`).
-/

namespace RoutePattern

open Grammar (State Viable InGroup)
open Lexeme (Kind kinds kinds_append)

namespace Phrase

variable {s r q : State} {l : Lexeme} {ls rest behind : List Lexeme} {p : Phrase} {e : SyntaxError}

/-- The lexemes before `behind` lead from one state to another. -/
def Passes (s : State) (ls : List Lexeme) (r : State) (behind : List Lexeme) : Prop :=
  ∃ passed, ls = passed ++ behind ∧ s.run (kinds passed) = some r

theorem Passes.refl (s : State) (ls : List Lexeme) : Passes s ls s ls := ⟨[], rfl, rfl⟩

theorem Passes.step (step : s.next l.body.kind = some r) (later : Passes r ls q behind) :
    Passes s (l :: ls) q behind := by
  obtain ⟨passed, rfl, ran⟩ := later
  exact ⟨l :: passed, rfl, by rw [kinds, List.map_cons, State.run, step]; exact ran⟩

theorem Passes.trans (first : Passes s ls r rest) (later : Passes r rest q behind) :
    Passes s ls q behind := by
  obtain ⟨passed, rfl, ran⟩ := first
  obtain ⟨passed', rfl, ran'⟩ := later
  refine ⟨passed ++ passed', (List.append_assoc ..).symm, ?_⟩
  rw [kinds_append, State.run_append]
  exact Option.bind_eq_some_iff.2 ⟨r, ran, ran'⟩

/-- What follows an item is read as if nothing stood before it. -/
structure Settled (s : State) (behind : List Lexeme) : Prop where
  outside : s.isOutside = true
  first : ∀ l ∈ behind.head?, s.next l.body.kind = State.next .between l.body.kind

/-- The automaton cannot go on at the lexeme that the error names. -/
def Blames (s : State) (ls : List Lexeme) (e : SyntaxError) : Prop :=
  ∃ r l behind, Passes s ls r (l :: behind) ∧ r.next l.body.kind = none ∧
    e = .unexpected l (if r.isInside then .closing else .finish)

/-! ## Parts of an item -/

theorem passes_leadingFragment? (ls : List Lexeme) :
    Passes .bound ls .bound (leadingFragment? ls).2 := by
  unfold leadingFragment?
  split
  · exact .step rfl (.refl _ _)
  · exact .refl _ _

theorem exists_passes_leadingModifier? (ls : List Lexeme) :
    ∃ s, Passes .bound ls s (leadingModifier? ls).2 ∧ Settled s (leadingModifier? ls).2 := by
  unfold leadingModifier?
  split
  · exact ⟨.between, .step rfl (.refl _ _), rfl, fun _ _ => rfl⟩
  · rename_i none
    refine ⟨.bound, .refl _ _, rfl, fun l first => ?_⟩
    obtain ⟨index, body⟩ := l
    cases body with
    | modifier m =>
      obtain ⟨rest, rfl⟩ := List.head?_eq_some_iff.1 first
      exact absurd rfl (none index m rest)
    | _ => rfl

/-! ## Texts in a group -/

/-- The lexeme stands for a character. -/
def isText (l : Lexeme) : Bool := (charOf? l).isSome

theorem kind_of_isText (text : isText l = true) :
    l.body.kind = .char ∨ l.body.kind = .escaped := by
  obtain ⟨index, body⟩ := l
  cases body with
  | char c => exact .inl rfl
  | escaped c => exact .inr rfl
  | _ => cases text

theorem behindText_of_text (text : isText l = true) (ls : List Lexeme) :
    behindText (l :: ls) = behindText ls := List.dropWhile_cons_of_pos text

theorem behindText_of_other (other : isText l = false) (ls : List Lexeme) :
    behindText (l :: ls) = l :: ls :=
  List.dropWhile_cons_of_neg (Bool.eq_false_iff.1 other)

theorem isText_head_behindText (ls : List Lexeme) :
    ∀ l ∈ (behindText ls).head?, isText l = false := by
  intro l first
  have stops := List.head?_dropWhile_not isText ls
  have same : (ls.dropWhile isText).head? = some l := first
  simpa only [same] using stops

/-- Characters are passed by a state that stays the same behind them. -/
theorem passes_behindText (stays : ∀ k, k = .char ∨ k = .escaped → s.next k = some s)
    (ls : List Lexeme) : Passes s ls s (behindText ls) := by
  induction ls with
  | nil => exact .refl _ _
  | cons l ls ih =>
    cases text : isText l with
    | false =>
      rw [behindText_of_other text]
      exact .refl _ _
    | true =>
      rw [behindText_of_text text]
      exact .step (stays _ (kind_of_isText text)) ih

/-- A group is open, and nothing but its end may follow. -/
structure Stuck (s : State) (ls : List Lexeme) : Prop where
  inside : s.isInside = true
  first : ∀ l ∈ ls.head?, l.body.kind = .closing ∨ s.next l.body.kind = none

/-- A group is open, and nothing but a text or its end may follow. -/
structure Trailing (s : State) (ls : List Lexeme) : Prop where
  inside : s.isInside = true
  text : ∀ l ∈ ls.head?, isText l = true → s.next l.body.kind = some .trail
  other : ∀ l ∈ ls.head?, isText l = false → l.body.kind = .closing ∨ s.next l.body.kind = none

theorem trailing_trail (ls : List Lexeme) : Trailing .trail ls where
  inside := rfl
  text := fun l _ text => by rcases kind_of_isText text with kind | kind <;> rw [kind] <;> rfl
  other := fun ⟨index, body⟩ _ other => by
    cases body with
    | closing => exact .inl rfl
    | char c | escaped c => cases other
    | _ => exact .inr rfl

theorem trailing_named (none : ∀ l ∈ ls.head?, l.body.kind ≠ .fragment) : Trailing .named ls where
  inside := rfl
  text := fun l _ text => by rcases kind_of_isText text with kind | kind <;> rw [kind] <;> rfl
  other := fun ⟨index, body⟩ first other => by
    cases body with
    | closing => exact .inl rfl
    | char c | escaped c => cases other
    | fragment f => exact absurd rfl (none _ first)
    | _ => exact .inr rfl

theorem Trailing.exists_stuck (trailing : Trailing s ls) :
    ∃ r, Passes s ls r (behindText ls) ∧ Stuck r (behindText ls) := by
  cases ls with
  | nil => exact ⟨s, .refl _ _, trailing.inside, nofun⟩
  | cons l ls =>
    cases text : isText l with
    | false =>
      rw [behindText_of_other text]
      refine ⟨s, .refl _ _, trailing.inside, ?_⟩
      rintro _ ⟨⟩
      exact trailing.other l rfl text
    | true =>
      rw [behindText_of_text text]
      have stays : ∀ k, k = .char ∨ k = .escaped → State.next .trail k = some .trail := by
        rintro _ (rfl | rfl) <;> rfl
      refine ⟨.trail, .step (trailing.text l rfl text) (passes_behindText stays ls), rfl, ?_⟩
      exact fun l first => (trailing_trail _).other l first (isText_head_behindText ls l first)

/-! ## Groups -/

theorem exists_passes_fragment (ls : List Lexeme) :
    ∃ s, Passes .named ls s (leadingFragment? ls).2 ∧ Trailing s (leadingFragment? ls).2 := by
  unfold leadingFragment?
  split
  · exact ⟨.trail, .step rfl (.refl _ _), trailing_trail _⟩
  · rename_i none
    refine ⟨.named, .refl _ _, trailing_named fun ⟨index, body⟩ first fragment => ?_⟩
    cases body with
    | fragment f =>
      obtain ⟨rest, rfl⟩ := List.head?_eq_some_iff.1 first
      exact none index f rest rfl
    | _ => cases fragment

theorem exists_passes_leadingSlot? (other : ∀ l ∈ ls.head?, isText l = false) :
    ∃ s, Passes .lead ls s (leadingSlot? ls).2 ∧ Trailing s (leadingSlot? ls).2 := by
  unfold leadingSlot?
  split
  · rename_i index name rest
    obtain ⟨s, passes, trailing⟩ := exists_passes_fragment rest
    exact ⟨s, .step rfl passes, trailing⟩
  · exact ⟨.trail, .step rfl (.refl _ _), trailing_trail _⟩
  · rename_i nameless none
    refine ⟨.lead, .refl _ _, rfl, fun l first text => ?_, fun ⟨index, body⟩ first _ => ?_⟩
    · rw [other l first] at text
      cases text
    · -- Neither a character nor a parameter is first.
      obtain ⟨rest, rfl⟩ := List.head?_eq_some_iff.1 first
      have text := other _ first
      cases body with
      | name n => exact absurd rfl (nameless index n rest)
      | fragment f => exact absurd rfl (none index f rest)
      | closing => exact .inl rfl
      | char c | escaped c => cases text
      | _ => exact .inr rfl

/-- What stands in a group, up to what should be its end. -/
theorem exists_passes_group (ls : List Lexeme) :
    ∃ s, Passes .lead ls s (behindText (leadingSlot? (behindText ls)).2) ∧
      Stuck s (behindText (leadingSlot? (behindText ls)).2) := by
  have stays : ∀ k, k = .char ∨ k = .escaped → State.next .lead k = some .lead := by
    rintro _ (rfl | rfl) <;> rfl
  have lead := passes_behindText stays ls
  obtain ⟨r, slot, trailing⟩ := exists_passes_leadingSlot? (isText_head_behindText ls)
  obtain ⟨q, trail, stuck⟩ := trailing.exists_stuck
  exact ⟨q, (lead.trans slot).trans trail, stuck⟩

theorem passes_groupFrom (read : groupFrom ls = .ok (p, behind)) :
    ∃ s, Passes .lead ls s behind ∧ Settled s behind := by
  obtain ⟨r, inside, stuck⟩ := exists_passes_group ls
  simp only [groupFrom] at read
  split at read
  · rename_i index rest closed
    obtain ⟨-, rfl⟩ := Prod.mk.inj (Except.ok.inj read)
    rw [closed] at inside stuck
    have closing : r.next .closing = some .bound := by
      have := stuck.inside
      cases r <;> first | rfl | cases this
    obtain ⟨s, modifier, settled⟩ := exists_passes_leadingModifier? rest
    exact ⟨s, inside.trans (.step closing modifier), settled⟩
  · cases read
  · cases read

/-- A group that is not closed ends the list or blames what stands there. -/
theorem groupFrom_error (read : groupFrom ls = .error e) :
    (∃ s, s.isInside = true ∧ Passes .lead ls s []) ∨ Blames .lead ls e := by
  obtain ⟨r, inside, stuck⟩ := exists_passes_group ls
  simp only [groupFrom] at read
  split at read
  · cases read
  · rename_i l behind other here
    rw [here] at inside stuck
    obtain rfl := Except.error.inj read
    refine .inr ⟨r, l, behind, inside, ?_, by rw [stuck.inside, if_pos rfl]⟩
    rcases stuck.first l rfl with closing | blocked
    · obtain ⟨index, body⟩ := l
      cases body with
      | closing => exact absurd rfl (other index)
      | _ => cases closing
    · exact blocked
  · rename_i none
    rw [none] at inside stuck
    exact .inl ⟨r, stuck.inside, inside⟩

/-! ## Phrases -/

/-- A phrase is passed on the way of the automaton. -/
theorem passes_next (read : next l ls = .ok (p, behind)) :
    ∃ s, Passes .between (l :: ls) s behind ∧ Settled s behind := by
  obtain ⟨index, body⟩ := l
  cases body with
  | char c | escaped c =>
    obtain ⟨-, rfl⟩ := Prod.mk.inj (Except.ok.inj read)
    exact ⟨.between, .step rfl (.refl _ _), rfl, fun _ _ => rfl⟩
  | name n =>
    obtain ⟨-, rfl⟩ := Prod.mk.inj (Except.ok.inj read)
    obtain ⟨s, modifier, settled⟩ := exists_passes_leadingModifier? (leadingFragment? ls).2
    exact ⟨s, .step rfl ((passes_leadingFragment? ls).trans modifier), settled⟩
  | fragment f =>
    obtain ⟨-, rfl⟩ := Prod.mk.inj (Except.ok.inj read)
    obtain ⟨s, modifier, settled⟩ := exists_passes_leadingModifier? ls
    exact ⟨s, .step rfl modifier, settled⟩
  | opening =>
    obtain ⟨s, group, settled⟩ := passes_groupFrom read
    exact ⟨s, .step rfl group, settled⟩
  | closing | modifier m | finish => cases read

theorem next_error (goes : l.body ≠ .finish) (read : next l ls = .error e) :
    (∃ s, s.isInside = true ∧ Passes .between (l :: ls) s []) ∨ Blames .between (l :: ls) e := by
  obtain ⟨index, body⟩ := l
  cases body with
  | opening =>
    rcases groupFrom_error read with ⟨s, inside, passes⟩ | ⟨s, l, behind, passes, blocked, same⟩
    · exact .inl ⟨s, inside, .step rfl passes⟩
    · exact .inr ⟨s, l, behind, .step rfl passes, blocked, same⟩
  | closing | modifier m =>
    obtain rfl := Except.error.inj read
    exact .inr ⟨.between, _, ls, .refl _ _, rfl, rfl⟩
  | finish => exact absurd rfl goes
  | char c | escaped c | name n | fragment f => cases read

/-- The end of the pattern is marked once, at the end of the list. -/
def Ends (ls : List Lexeme) : Prop :=
  ∃ inner last, ls = inner ++ [last] ∧ (∀ l ∈ inner, l.body ≠ .finish) ∧ last.body = .finish

theorem Ends.eq_ended (ends : Ends ls) (passes : Passes s ls r []) : r = .ended := by
  obtain ⟨inner, last, rfl, -, mark⟩ := ends
  obtain ⟨passed, same, ran⟩ := passes
  obtain rfl : inner ++ [last] = passed := by simpa using same
  rw [kinds_append, State.run_append] at ran
  obtain ⟨q, -, final⟩ := Option.bind_eq_some_iff.1 ran
  rw [kinds, List.map_singleton, mark] at final
  cases q <;> first | exact (Option.some.inj final).symm | cases final

theorem Ends.later (ends : Ends ls) (passes : Passes s ls r behind) (goes : r ≠ .ended) :
    Ends behind := by
  rcases List.eq_nil_or_concat behind with rfl | ⟨inner', last', rfl⟩
  · exact absurd (ends.eq_ended passes) goes
  · obtain ⟨inner, last, same, others, mark⟩ := ends
    obtain ⟨passed, rfl, -⟩ := passes
    rw [List.concat_eq_append, ← List.append_assoc] at same
    obtain ⟨rfl, only⟩ := List.append_inj' same rfl
    obtain rfl := List.singleton_inj.1 only
    refine ⟨inner', last', List.concat_eq_append, fun l member => ?_, mark⟩
    exact others l (List.mem_append_right _ member)

/-- What settles an item reads on as from the start. -/
theorem Settled.passes (settled : Settled s ls) (passes : Passes .between ls r behind) :
    Passes s ls r behind ∨ r = .between ∧ behind = ls := by
  obtain ⟨passed, rfl, ran⟩ := passes
  cases passed with
  | nil => exact .inr ⟨(Option.some.inj ran).symm, rfl⟩
  | cons l passed =>
    have same := settled.first l rfl
    refine .inl ⟨l :: passed, rfl, ?_⟩
    rw [← ran, kinds, List.map_cons, State.run, State.run, same]

theorem Settled.ne_ended (settled : Settled s ls) : s ≠ .ended := by
  rintro rfl
  cases settled.outside

theorem Settled.isInside (settled : Settled s ls) : s.isInside = false := by
  have outside := settled.outside
  cases s <;> first | rfl | cases outside

theorem Settled.blames (settled : Settled s ls) (blames : Blames .between ls e) : Blames s ls e := by
  obtain ⟨r, l, behind, passes, blocked, same⟩ := blames
  rcases settled.passes passes with onward | ⟨rfl, rfl⟩
  · exact ⟨r, l, behind, onward, blocked, same⟩
  · exact ⟨s, l, behind, .refl _ _, (settled.first l rfl).trans blocked, by rw [same, settled.isInside]; rfl⟩

/-- Reading a pattern goes the way of the automaton to its end, or blames the lexeme where the automaton
cannot go on. -/
theorem ofLexemes_spec (ends : Ends ls) :
    match ofLexemes ls with
    | .ok _ => Passes .between ls .ended []
    | .error e => Blames .between ls e := by
  fun_induction ofLexemes ls with
  | case1 =>
    obtain ⟨inner, last, same, -⟩ := ends
    simp at same
  | case2 l rest mark =>
    obtain ⟨inner, last, same, others, -⟩ := ends
    cases inner with
    | nil =>
      obtain ⟨rfl, rfl⟩ := List.cons.inj same
      exact .step (by rw [mark]; rfl) (.refl _ _)
    | cons l' inner =>
      obtain ⟨rfl, -⟩ := List.cons.inj same
      exact absurd mark (others l List.mem_cons_self)
  | case3 l rest goes e found =>
    rcases next_error goes found with ⟨s, inside, passes⟩ | blames
    · obtain rfl := ends.eq_ended passes
      cases inside
    · exact blames
  | case4 l rest goes p behind found ih =>
    obtain ⟨s, passes, settled⟩ := passes_next found
    have later := ih (ends.later passes settled.ne_ended)
    cases more : ofLexemes behind with
    | ok ps =>
      rw [more] at later
      rcases settled.passes later with onward | ⟨ended, -⟩
      · exact passes.trans onward
      · cases ended
    | error e =>
      rw [more] at later
      obtain ⟨r, t, rest, onward, blocked, same⟩ := settled.blames later
      exact ⟨r, t, rest, passes.trans onward, blocked, same⟩

/-- The lexeme that is blamed is the first one behind which there is no sentence. -/
theorem Blames.exists_split (blames : Blames .between ls e) :
    ∃ before l behind, ls = before ++ l :: behind ∧
      (∀ earlier, earlier <+: before → Viable (kinds earlier)) ∧ ¬Viable (kinds (before ++ [l])) ∧
      e = .unexpected l (if InGroup (kinds before) then .closing else .finish) := by
  obtain ⟨r, l, behind, ⟨before, rfl, ran⟩, blocked, rfl⟩ := blames
  refine ⟨before, l, behind, rfl, ?_, ?_, ?_⟩
  · rintro earlier ⟨later, rfl⟩
    rw [kinds_append, State.run_append] at ran
    obtain ⟨s, ran, -⟩ := Option.bind_eq_some_iff.1 ran
    exact Grammar.viable_iff.2 ⟨s, ran⟩
  · rw [Grammar.viable_iff, kinds_append, State.run_append]
    rintro ⟨s, goes⟩
    rw [ran, Option.bind_some, kinds, List.map_singleton, State.run, blocked] at goes
    cases goes
  · simp only [State.isInside_iff_inGroup ran]

end Phrase

namespace Token

/-- Reading succeeds on the lexemes of a pattern just if they are a sentence of the grammar. Otherwise it
blames the first lexeme that no sentence has behind those before it, and expects a closing brace there
if a group is open and the end of the pattern if none is. -/
theorem ofPattern?_iff_sentence (o : Options) {pattern : Text} {ls : List Lexeme}
    (scanned : Lexeme.scan pattern = .ok ls) :
    ((∃ ts, ofPattern? o pattern = .ok ts) ↔ kinds ls ∈ Grammar.sentence) ∧
    (kinds ls ∉ Grammar.sentence → ∃ before l behind, ls = before ++ l :: behind ∧
      (∀ earlier, earlier <+: before → Viable (kinds earlier)) ∧
      ¬Viable (kinds (before ++ [l])) ∧
      ofPattern? o pattern =
        .error (.unexpected l (if InGroup (kinds before) then .closing else .finish))) := by
  obtain ⟨inner, marked, others⟩ := (Lexeme.spells_scanFrom scanned).finished
  have spec := Phrase.ofLexemes_spec ⟨inner, _, marked, others, rfl⟩
  have bound : ofPattern? o pattern =
      (Phrase.ofLexemes ls).bind fun ps => .ok (ofPhrases o 0 [] ps) := by
    rw [ofPattern?, scanned]
    rfl
  rw [bound]
  cases read : Phrase.ofLexemes ls with
  | ok ps =>
    rw [read] at spec
    obtain ⟨passed, rfl, ran⟩ := spec
    rw [List.append_nil]
    have accepted : kinds passed ∈ Grammar.sentence := Grammar.mem_sentence_iff.2 ran
    exact ⟨⟨fun _ => accepted, fun _ => ⟨_, rfl⟩⟩, fun refused => absurd accepted refused⟩
  | error e =>
    rw [read] at spec
    obtain ⟨before, l, behind, rfl, viable, stops, rfl⟩ := spec.exists_split
    refine ⟨⟨nofun, fun accepted => ?_⟩, fun _ => ⟨before, l, behind, rfl, viable, stops, rfl⟩⟩
    refine absurd ⟨kinds behind, ?_⟩ stops
    rwa [← kinds_append, List.append_assoc]

theorem ofPattern?_iff_sentence_unclosed : ∃ ls before behind,
    Lexeme.scan "/{:id(a)x(b)}".toList = .ok ls ∧ kinds ls ∉ Grammar.sentence ∧
    ls = before ++ ⟨9, .fragment ['b']⟩ :: behind ∧ Viable (kinds before) ∧
    ¬Viable (kinds (before ++ [⟨9, .fragment ['b']⟩])) ∧ InGroup (kinds before) := by
  have evaluated : (Lexeme.scan "/{:id(a)x(b)}".toList).toOption.map
      (fun ls => State.run .between (kinds ls)) = some none := by decide +kernel
  obtain ⟨ls, found, stops⟩ := Option.map_eq_some_iff.1 evaluated
  have scanned := eq_ok_of_toOption found
  have refused : kinds ls ∉ Grammar.sentence := by
    rw [Grammar.mem_sentence_iff, stops]
    nofun
  obtain ⟨before, l, behind, split, viable, later, blamed⟩ :=
    (ofPattern?_iff_sentence {} scanned).2 refused
  have error : ofPattern? {} "/{:id(a)x(b)}".toList =
      .error (.unexpected ⟨9, .fragment ['b']⟩ .closing) := by decide +kernel
  obtain ⟨rfl, closing⟩ := SyntaxError.unexpected.inj (Except.error.inj (error.symm.trans blamed))
  have group : InGroup (kinds before) := by
    by_contra outside
    rw [if_neg outside] at closing
    cases closing
  exact ⟨ls, before, behind, scanned, refused, split, viable before List.prefix_rfl, later, group⟩

end Token

end RoutePattern
