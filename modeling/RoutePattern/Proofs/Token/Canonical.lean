import RoutePattern.Proofs.Token.Written

/-! # The form of a token list

The tokens of a pattern are not any tokens: the texts are as long as they can be, the parameters without
a name are numbered in their order, and names, fragments and the texts around a parameter are such as can
be written (`Token.ofPattern?_canonical`).
-/

namespace RoutePattern

open Lexeme (Body Literal isNameChar)

def Name.ordinal? : Name → Option Nat
  | ordinal n => some n
  | named _ => none

theorem Options.segment_ne_nil (o : Options) : o.segment ≠ [] := by
  rw [segment, Text.Escape.runWithout]
  split <;> simp

/-- A group that holds nothing but a text. -/
def Lexeme.LiteralGroup (bs : List Body) : Prop :=
  ∃ t inner, ∃ m : Option Modifier, Literal inner t ∧
    bs = .opening :: inner ++ .closing :: m.toList.map .modifier

/-! ## Parameters -/

namespace Key

variable {o : Options} {k : Key} {slot : Option Slot} {n : Text}

/-- The parameter is one that can be written, and is written as these lexemes. -/
structure Regular (o : Options) (k : Key) (bs : List Body) : Prop where
  named : ∀ n, k.name = .named n →
    (n ≠ [] ∧ ∀ c ∈ n, isNameChar c = true) ∨ Lexeme.LiteralGroup bs
  empty : k.fragment = [] ↔ k.name = .named []
  bare : .opening ∉ bs → k.trail = [] ∧ (k.lead = [] ∨ ∃ c ∈ o.prefixes, k.lead = [c])

theorem Fills.named (fills : k.Fills o slot) (sound : ∀ b ∈ slot.elim [] Slot.bodies, b.Sound)
    (named : k.name = .named n) : (n ≠ [] ∧ ∀ c ∈ n, isNameChar c = true) ∨ slot = none := by
  match slot, fills with
  | none, _ => exact .inr rfl
  | some (.unnamed f), ⟨⟨i, name⟩, _⟩ =>
    rw [name] at named
    cases named
  | some (.named n' f), ⟨name, _⟩ =>
    rw [name] at named
    obtain rfl := Name.named.inj named
    exact .inl (sound (.name n') List.mem_cons_self)

/-- Just the groups of literal text have an empty fragment. -/
theorem Fills.fragment_eq_nil_iff (fills : k.Fills o slot)
    (sound : ∀ b ∈ slot.elim [] Slot.bodies, b.Sound) : k.fragment = [] ↔ k.name = .named [] := by
  match slot, fills with
  | none, ⟨name, fragment⟩ => simp [name, fragment]
  | some (.unnamed f), ⟨⟨i, name⟩, fragment⟩ =>
    have filled : f ≠ [] := (sound (.fragment f) List.mem_cons_self).filled
    simp [name, fragment, filled]
  | some (.named n none), ⟨name, fragment⟩ =>
    have filled : n ≠ [] := (sound (.name n) List.mem_cons_self).1
    simp [name, fragment, filled, o.segment_ne_nil]
  | some (.named n (some f)), ⟨name, fragment⟩ =>
    have filled : n ≠ [] := (sound (.name n) List.mem_cons_self).1
    have filled' : f ≠ [] := (sound (.fragment f) (by simp [Slot.bodies])).filled
    simp [name, fragment, filled, filled']

end Key

namespace Token

variable {o : Options} {ordinal : Nat} {pending t : Text} {k : Key} {bs : List Body} {ts : List Token}

/-! ## Neighbours -/

/-- No two texts are next to each other. -/
def Merged (ts : List Token) : Prop := ts.IsChain fun t u => t.isText = true → u.isText = false

theorem Merged.param (merged : Merged ts) (k : Key) : Merged (.param k :: ts) := by
  cases ts with
  | nil => exact .singleton _
  | cons t ts => exact .cons_cons nofun merged

theorem Merged.behind (merged : Merged ts) (t : Text) (k : Key) :
    Merged (ofText t ++ .param k :: ts) := by
  cases t with
  | nil => exact merged.param k
  | cons c t => exact .cons_cons (fun _ => rfl) (merged.param k)

theorem merged_ofPhrases (o : Options) (ordinal : Nat) (pending : Text) (ps : List Phrase) :
    Merged (ofPhrases o ordinal pending ps) := by
  fun_induction ofPhrases o ordinal pending ps with
  | case1 ordinal pending =>
    cases pending.reverse with
    | nil => exact .nil
    | cons c t => exact .singleton _
  -- A character only makes the open text longer.
  | case4 _ _ _ _ _ ih | case5 _ _ _ _ ih => exact ih
  | case2 _ _ _ _ _ _ _ _ _ _ _ ih | case3 _ _ _ _ _ _ _ _ _ _ _ ih
  | case6 _ _ _ _ _ _ _ _ _ ih | case7 _ _ _ _ _ _ ih | case8 _ _ _ _ _ _ _ _ _ _ _ ih =>
    exact ih.behind _ _

/-! ## Numbers -/

/-- The numbers of the parameters without a name, in order. -/
def ordinals (ts : List Token) : List Nat := (ts.filterMap key?).filterMap (·.name.ordinal?)

/-- The numbers go up by one, from `ordinal`. -/
def NumberedFrom (ordinal : Nat) (ts : List Token) : Prop :=
  ordinals ts = List.range' ordinal (ordinals ts).length

theorem ordinals_behind (t : Text) (k : Key) (ts : List Token) :
    ordinals (ofText t ++ .param k :: ts) = k.name.ordinal?.toList ++ ordinals ts := by
  have text : (ofText t).filterMap key? = [] := by cases t <;> rfl
  rw [ordinals, List.filterMap_append, text, List.nil_append, List.filterMap_cons]
  cases same : k.name.ordinal? <;> simp [key?, same, ordinals]

theorem NumberedFrom.behind {slot : Slot} {name : Name} {fragment : Text} {next : Nat}
    (found : ofSlot o.segment ordinal slot = (name, fragment, next)) (later : NumberedFrom next ts)
    (t lead trail : Text) (m : Option Modifier) :
    NumberedFrom ordinal (ofText t ++ .param ⟨name, lead, trail, fragment, m⟩ :: ts) := by
  rw [NumberedFrom, ordinals_behind]
  cases slot with
  | named n f =>
    obtain ⟨rfl, -, rfl⟩ := found
    exact later
  | unnamed f =>
    obtain ⟨rfl, -, rfl⟩ := found
    exact congrArg (ordinal :: ·) later

theorem numberedFrom_ofPhrases (o : Options) (ordinal : Nat) (pending : Text) (ps : List Phrase) :
    NumberedFrom ordinal (ofPhrases o ordinal pending ps) := by
  fun_induction ofPhrases o ordinal pending ps with
  | case1 ordinal pending =>
    have none : ordinals (ofText pending.reverse) = [] := by cases pending.reverse <;> rfl
    rw [NumberedFrom, none]
    rfl
  | case4 _ _ _ _ _ ih | case5 _ _ _ _ ih => exact ih
  | case2 _ _ _ _ _ _ _ _ _ found _ ih | case3 _ _ _ _ _ _ _ _ _ found _ ih
  | case6 _ _ _ _ _ _ _ _ found ih | case8 _ _ _ _ _ _ _ _ _ _ found ih =>
    exact ih.behind found _ _ _ _
  | case7 _ _ _ _ _ _ ih =>
    -- A group of literal text has no number.
    rw [NumberedFrom, ordinals_behind]
    exact ih

/-- The number of a parameter is smaller than the length of the pattern. -/
theorem ordinal_lt {pattern : Text} (read : ofPattern? o pattern = .ok ts) {n : Nat}
    (member : .param k ∈ ts) (name : k.name = .ordinal n) : n < pattern.length := by
  obtain ⟨-, ps, -, -, tokens⟩ := ofPattern?_eq_ok_iff.1 read
  have numbered : NumberedFrom 0 ts := tokens ▸ numberedFrom_ofPhrases o 0 [] ps
  have listed : n ∈ ordinals ts :=
    List.mem_filterMap.2 ⟨k, List.mem_filterMap.2 ⟨.param k, member, rfl⟩, by rw [name]; rfl⟩
  rw [numbered, List.mem_range'_1, Nat.zero_add] at listed
  calc
    n < (ordinals ts).length := listed.2
    _ ≤ (ts.filterMap key?).length := List.length_filterMap_le _ _
    _ ≤ ts.length := List.length_filterMap_le _ _
    _ ≤ pattern.length := length_le_of_ofPattern? read

/-! ## Patterns -/

theorem Written.regular (written : Written o (.param k) bs) (sound : ∀ b ∈ bs, b.Sound) :
    k.Regular o bs := by
  cases written with
  | @param _ slot fills trail lead =>
    have sound' : ∀ b ∈ slot.bodies, b.Sound := fun b member => sound b (by simp [member])
    refine ⟨fun n named => ?_, fills.fragment_eq_nil_iff sound', fun _ => ⟨trail, lead⟩⟩
    exact .inl ((fills.named sound' named).resolve_right nofun)
  | @group _ slot inner inner' fills leads trails =>
    have sound' : ∀ b ∈ slot.elim [] Slot.bodies, b.Sound := fun b member => sound b (by simp [member])
    refine ⟨fun n named => ?_, fills.fragment_eq_nil_iff sound', fun braced => ?_⟩
    · refine (fills.named sound' named).imp_right ?_
      rintro rfl
      exact ⟨_, inner ++ inner', k.modifier, leads.append trails, by simp⟩
    · -- The opening brace is one of its lexemes.
      exact absurd (by simp) braced

/-- Each token is written, and each parameter is one that can be, as these lexemes. -/
theorem forall₂_regular {slices : List (List Body)} (each : List.Forall₂ (Written o) ts slices)
    (sound : ∀ b ∈ slices.flatten, b.Sound) :
    List.Forall₂ (fun t bs => Written o t bs ∧ ∀ k ∈ t.key?, k.Regular o bs) ts slices := by
  induction each with
  | nil => exact .nil
  | @cons t bs ts slices written _ ih =>
    rw [List.flatten_cons, List.forall_mem_append] at sound
    refine .cons ⟨written, fun k key => ?_⟩ (ih sound.2)
    cases t with
    | text t => cases key
    | param k' =>
      obtain rfl := Option.some.inj key
      exact written.regular sound.1

/-- What the tokens of every pattern are like. The pattern is cut into the runs of lexemes that the
tokens are written as. -/
theorem ofPattern?_canonical {pattern : Text} (read : ofPattern? o pattern = .ok ts) :
    (∀ t, .text t ∈ ts → t ≠ []) ∧ Merged ts ∧ ordinals ts = List.range (ordinals ts).length ∧
    ∃ ls slices, Lexeme.scan pattern = .ok ls ∧ ls.map (·.body) = slices.flatten ++ [.finish] ∧
      List.Forall₂ (fun t bs => Written o t bs ∧ ∀ k ∈ t.key?, k.Regular o bs) ts slices := by
  obtain ⟨ls, slices, scanned, whole, each, sound⟩ := exists_written read
  obtain ⟨-, ps, -, -, rfl⟩ := ofPattern?_eq_ok_iff.1 read
  refine ⟨fun t member => ?_, merged_ofPhrases o 0 [] ps, ?_, ls, slices, scanned, whole, ?_⟩
  · obtain ⟨bs, -, written⟩ := exists_related each member
    cases written with | text filled _
    exact filled
  · rw [List.range_eq_range']
    exact numberedFrom_ofPhrases o 0 [] ps
  · exact forall₂_regular each sound

theorem ofPattern?_canonical_mixed : ∃ ts ls slices,
    ofPattern? {} "/a-:b.(c){d}{-(e).}*f".toList = .ok ts ∧
    Lexeme.scan "/a-:b.(c){d}{-(e).}*f".toList = .ok ls ∧ ordinals ts = [0, 1] ∧
    ls.map (·.body) = slices.flatten ++ [.finish] ∧
    List.Forall₂ (fun t bs => Written {} t bs ∧ ∀ k ∈ t.key?, k.Regular {} bs) ts slices := by
  have evaluated : (ofPattern? {} "/a-:b.(c){d}{-(e).}*f".toList).toOption.map ordinals =
      some [0, 1] := by decide +kernel
  obtain ⟨ts, found, numbers⟩ := Option.map_eq_some_iff.1 evaluated
  have read := eq_ok_of_toOption found
  obtain ⟨-, -, -, ls, slices, scanned, whole, each⟩ := ofPattern?_canonical read
  exact ⟨ts, ls, slices, read, scanned, numbers, whole, each⟩

end Token

end RoutePattern
