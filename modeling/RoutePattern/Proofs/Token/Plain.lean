import RoutePattern.Proofs.Except
import RoutePattern.Proofs.Token.Expression

/-! # Patterns without fragments

Where no lexeme of a pattern is a fragment, every parameter is named and matches what the delimiters
leave.
-/

namespace RoutePattern

namespace Lexeme

def isFragment (l : Lexeme) : Bool :=
  match l.body with
  | .fragment _ => true
  | _ => false

/-- No parameter of the pattern has a fragment of its own. -/
def withoutFragments (pattern : Text) : Bool :=
  match scan pattern with
  | .ok ls => ls.all fun l => !l.isFragment
  | .error _ => true

end Lexeme

namespace Slot

/-- The slot has a name and nothing else. -/
def isBare : Slot → Bool
  | named _ none => true
  | named _ (some _) | unnamed _ => false

end Slot

namespace Phrase

def slot? : Phrase → Option Slot
  | param slot _ => some slot
  | group _ slot _ _ => slot
  | char _ | escaped _ => none

variable {ls behind : List Lexeme}

theorem leadingFragment?_of_none (plain : ∀ l ∈ ls, l.isFragment = false) :
    leadingFragment? ls = (none, ls) := by
  unfold leadingFragment?
  split
  · have fragment := plain _ List.mem_cons_self
    cases fragment
  · rfl

theorem leadingModifier?_suffix (ls : List Lexeme) : (leadingModifier? ls).2 <:+ ls := by
  unfold leadingModifier?
  split
  · exact List.suffix_cons _ _
  · exact List.suffix_refl _

theorem leadingSlot?_of_none (plain : ∀ l ∈ ls, l.isFragment = false) :
    (leadingSlot? ls).1.all (·.isBare) = true ∧ (leadingSlot? ls).2 <:+ ls := by
  unfold leadingSlot?
  split
  · rename_i index name rest
    have later : ∀ l ∈ rest, l.isFragment = false :=
      fun l member => plain l (List.mem_cons_of_mem _ member)
    simp only [leadingFragment?_of_none later]
    exact ⟨rfl, List.suffix_cons _ _⟩
  · have fragment := plain _ List.mem_cons_self
    cases fragment
  · exact ⟨rfl, List.suffix_refl _⟩

theorem groupFrom_of_none (plain : ∀ l ∈ ls, l.isFragment = false) {p : Phrase}
    (read : groupFrom ls = .ok (p, behind)) :
    p.slot?.all (·.isBare) = true ∧ behind <:+ ls := by
  have text : behindText ls <:+ ls := List.dropWhile_suffix _
  have later : ∀ l ∈ behindText ls, l.isFragment = false :=
    fun l member => plain l (text.subset member)
  have slot := leadingSlot?_of_none later
  simp only [groupFrom] at read
  split at read
  · rename_i index rest closed
    obtain ⟨rfl, rfl⟩ := Prod.mk.inj (Except.ok.inj read)
    refine ⟨slot.1, ?_⟩
    -- What is left behind the group is what its slot left, without the text and the closing brace.
    have closing : (⟨index, .closing⟩ :: rest) <:+ (leadingSlot? (behindText ls)).2 := by
      rw [← closed]
      exact List.dropWhile_suffix _
    exact (leadingModifier?_suffix rest).trans
      ((List.suffix_cons _ _).trans (closing.trans (slot.2.trans text)))
  · cases read
  · cases read

theorem next_of_none {l : Lexeme} (here : l.isFragment = false)
    (plain : ∀ l ∈ ls, l.isFragment = false) {p : Phrase} (read : next l ls = .ok (p, behind)) :
    p.slot?.all (·.isBare) = true ∧ behind <:+ ls := by
  unfold next at read
  split at read
  · obtain ⟨rfl, rfl⟩ := Prod.mk.inj (Except.ok.inj read)
    exact ⟨rfl, List.suffix_refl _⟩
  · obtain ⟨rfl, rfl⟩ := Prod.mk.inj (Except.ok.inj read)
    exact ⟨rfl, List.suffix_refl _⟩
  · simp only [leadingFragment?_of_none plain] at read
    obtain ⟨rfl, rfl⟩ := Prod.mk.inj (Except.ok.inj read)
    exact ⟨rfl, leadingModifier?_suffix ls⟩
  · -- A parameter without a name would start with a fragment.
    rename_i fragment
    simp [Lexeme.isFragment, fragment] at here
  · exact groupFrom_of_none plain read
  · cases read
  · cases read
  · cases read

theorem ofLexemes_of_none (plain : ∀ l ∈ ls, l.isFragment = false) {ps : List Phrase}
    (read : ofLexemes ls = .ok ps) : ∀ p ∈ ps, p.slot?.all (·.isBare) = true := by
  fun_induction ofLexemes ls generalizing ps with
  | case1 | case2 => simp_all
  | case3 => cases read
  | case4 l rest _ p behind found ih =>
    have next := next_of_none (plain l List.mem_cons_self)
      (fun l member => plain l (List.mem_cons_of_mem _ member)) found
    obtain ⟨ps', more, rfl⟩ := map_eq_ok_iff.1 read
    intro q member
    rcases List.mem_cons.1 member with rfl | later
    · exact next.1
    · exact ih (fun l member => plain l (List.mem_cons_of_mem _ (next.2.subset member))) more q later

end Phrase

namespace Key

/-- The parameter has a name, and no fragment of its own. -/
structure Plain (o : Options) (k : Key) : Prop where
  simple : k.isSimple o = true
  named : ∃ n, k.name = .named n

end Key

namespace Token

theorem param_not_mem_ofText {t : Text} {k : Key} : param k ∉ ofText t := by
  unfold ofText
  split <;> simp

theorem plain_ofSlot {o : Options} {slot : Slot} (bare : slot.isBare = true) {ordinal next : Nat}
    {name : Name} {fragment : Text} (found : ofSlot o.segment ordinal slot = (name, fragment, next))
    (lead trail : Text) (m : Option Modifier) : Key.Plain o ⟨name, lead, trail, fragment, m⟩ := by
  cases slot with
  | unnamed f => cases bare
  | named n f =>
    cases f with
    | some f => cases bare
    | none =>
      simp only [ofSlot, Prod.mk.injEq, Option.getD_none] at found
      obtain ⟨rfl, rfl, -⟩ := found
      exact ⟨by simp [Key.isSimple], n, rfl⟩

/-- A text that was open, a parameter, and what follows. -/
theorem plain_behind {o : Options} {pending : Text} {k : Key} {ts : List Token} (here : k.Plain o)
    (later : ∀ k, param k ∈ ts → k.Plain o) :
    ∀ k', param k' ∈ ofText pending ++ param k :: ts → k'.Plain o := by
  intro k' member
  rcases List.mem_append.1 member with text | rest
  · exact absurd text param_not_mem_ofText
  · rcases List.mem_cons.1 rest with same | behind
    · obtain rfl := Token.param.inj same
      exact here
    · exact later k' behind

theorem plain_ofPhrases {o : Options} {ordinal : Nat} {pending : Text} {ps : List Phrase}
    (bare : ∀ p ∈ ps, p.slot?.all (·.isBare) = true) :
    ∀ k, param k ∈ ofPhrases o ordinal pending ps → k.Plain o := by
  -- Every phrase but a character adds a token; only a slot that is bare makes a parameter.
  fun_induction ofPhrases o ordinal pending ps with
  | case1 => exact fun k member => absurd member param_not_mem_ofText
  | case2 _ _ c slot m rest _ _ _ found _ ih | case3 _ _ c slot m rest _ _ _ found _ ih =>
    have here : slot.isBare = true := bare (.param slot m) (by simp)
    exact plain_behind (plain_ofSlot here found _ _ m) (ih fun p member => bare p (by simp [member]))
  | case4 _ _ _ _ _ ih | case5 _ _ _ _ ih => exact ih fun p member => bare p (by simp [member])
  | case6 _ _ slot m rest _ _ _ found ih =>
    have here : slot.isBare = true := bare (.param slot m) (by simp)
    exact plain_behind (plain_ofSlot here found _ _ m) (ih fun p member => bare p (by simp [member]))
  | case7 _ _ lead trail m rest ih =>
    exact plain_behind ⟨rfl, [], rfl⟩ (ih fun p member => bare p (by simp [member]))
  | case8 _ _ lead slot trail m rest _ _ _ found ih =>
    have here : slot.isBare = true := bare (.group lead (some slot) trail m) (by simp)
    exact plain_behind (plain_ofSlot here found _ _ m) (ih fun p member => bare p (by simp [member]))

/-- Reading a pattern takes three steps. -/
theorem ofPattern?_eq_ok_iff {o : Options} {pattern : Text} {ts : List Token} :
    ofPattern? o pattern = .ok ts ↔ ∃ ls ps, Lexeme.scan pattern = .ok ls ∧
      Phrase.ofLexemes ls = .ok ps ∧ ofPhrases o 0 [] ps = ts := by
  simp only [ofPattern?, bind_eq_ok_iff, Except.ok.injEq, exists_and_left]

/-- The parameters of a pattern without fragments. -/
theorem plain_ofPattern {o : Options} {pattern : Text} {ts : List Token}
    (plain : Lexeme.withoutFragments pattern = true) (read : ofPattern? o pattern = .ok ts) :
    ∀ k, param k ∈ ts → k.Plain o := by
  obtain ⟨ls, ps, scanned, phrases, rfl⟩ := ofPattern?_eq_ok_iff.1 read
  simp only [Lexeme.withoutFragments, scanned] at plain
  refine plain_ofPhrases (Phrase.ofLexemes_of_none (fun l member => ?_) phrases)
  simpa using List.all_eq_true.1 plain l member

theorem mem_keys {ts : List Token} {k : Key} : k ∈ keys ts ↔ param k ∈ ts ∧ k.captures = true := by
  simp only [keys, List.mem_filterMap, Option.filter_eq_some_iff]
  constructor
  · rintro ⟨t, member, found, captures⟩
    cases t with
    | text t => cases found
    | param k' =>
      obtain rfl := Option.some.inj found
      exact ⟨member, captures⟩
  · rintro ⟨member, captures⟩
    exact ⟨param k, member, rfl, captures⟩

theorem named_of_plain {o : Options} {ts : List Token} (plain : ∀ k, param k ∈ ts → k.Plain o) :
    ∀ k ∈ keys ts, ∃ n, k.name = .named n :=
  fun k member => (plain k (mem_keys.1 member).1).named

theorem simple_of_plain {o : Options} {ts : List Token} (plain : ∀ k, param k ∈ ts → k.Plain o) :
    Token.simple o ts = true := by
  refine List.all_eq_true.2 fun t member => ?_
  cases t with
  | text t => rfl
  | param k => simpa [key?] using (plain k member).simple

end Token

end RoutePattern
