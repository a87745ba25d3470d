import Mathlib.Data.List.ReduceOption
import RoutePattern.Proofs.Token.Written

/-! # What reading a pattern keeps

Nothing of a pattern is lost, doubled or moved when it is read (`Token.ofPattern?_conserves`). This is so
for each token and the lexemes that it is written as (`Token.Written.conserves`), and the tokens are
written one behind the other.
-/

namespace RoutePattern

open Lexeme (Body Literal)

/-- A name that has been given. -/
def Name.given? : Name → Option Text
  | named (c :: n) => some (c :: n)
  | named [] | ordinal _ => none

theorem Name.given?_of_ne_nil {n : Text} (filled : n ≠ []) : (Name.named n).given? = some n := by
  cases n with
  | nil => exact absurd rfl filled
  | cons c n => rfl

namespace Key

variable {o : Options} {k : Key} {slot : Option Slot}

/-- The parameter has the fragment that is written, or if none is, that of its kind. -/
def HasFragment (o : Options) (k : Key) : Option Text → Prop
  | some f => k.fragment = f
  | none => k.fragment = if k.name = .named [] then [] else o.segment

theorem Fills.given (fills : k.Fills o slot) (sound : ∀ b ∈ slot.elim [] Slot.bodies, b.Sound) :
    (slot.elim [] Slot.bodies).filterMap Body.name? = k.name.given?.toList := by
  match slot, fills with
  | none, ⟨name, _⟩ =>
    rw [name]
    rfl
  | some (.unnamed f), ⟨⟨i, name⟩, _⟩ =>
    rw [name]
    rfl
  | some (.named n f), ⟨name, _⟩ =>
    have filled : n ≠ [] := (sound (.name n) List.mem_cons_self).1
    rw [name, Name.given?_of_ne_nil filled]
    cases f <;> rfl

theorem Fills.exists_fragment (fills : k.Fills o slot)
    (sound : ∀ b ∈ slot.elim [] Slot.bodies, b.Sound) :
    ∃ own, k.HasFragment o own ∧ own.toList = (slot.elim [] Slot.bodies).filterMap Body.fragment? := by
  match slot, fills with
  | none, ⟨name, fragment⟩ => exact ⟨none, by rw [HasFragment, if_pos name, fragment], rfl⟩
  | some (.unnamed f), ⟨_, fragment⟩ => exact ⟨some f, fragment, rfl⟩
  | some (.named n (some f)), ⟨_, fragment⟩ => exact ⟨some f, fragment, rfl⟩
  | some (.named n none), ⟨name, fragment⟩ =>
    -- The name is not empty, so this is no group of literal text.
    have filled : n ≠ [] := (sound (.name n) List.mem_cons_self).1
    have given : k.name ≠ .named [] := by simpa [name] using filled
    exact ⟨none, by rw [HasFragment, if_neg given, fragment, Option.getD_none], rfl⟩

end Key

namespace Token

variable {o : Options} {t : Token} {ts : List Token} {bs bs' : List Body}

/-- The characters that the token stands for. -/
def characters : Token → Text
  | text t => t
  | param k => k.lead ++ k.trail

/-- The tokens have what the lexemes have, all of it once and in the same order. -/
structure Conserves (o : Options) (bs : List Body) (ts : List Token) : Prop where
  characters : ts.flatMap characters = bs.filterMap Body.char?
  names : (ts.filterMap key?).filterMap (·.name.given?) = bs.filterMap Body.name?
  fragments : ∃ own : List (Option Text), List.Forall₂ (Key.HasFragment o) (ts.filterMap key?) own ∧
    own.reduceOption = bs.filterMap Body.fragment?
  modifiers : (ts.filterMap key?).filterMap (·.modifier) = bs.filterMap Body.modifier?

theorem Conserves.append {ts' : List Token} (first : Conserves o bs ts)
    (later : Conserves o bs' ts') : Conserves o (bs ++ bs') (ts ++ ts') := by
  obtain ⟨own, each, fragments⟩ := first.fragments
  obtain ⟨own', each', fragments'⟩ := later.fragments
  refine ⟨?_, ?_, ⟨own ++ own', ?_, ?_⟩, ?_⟩
  · rw [List.flatMap_append, List.filterMap_append, first.characters, later.characters]
  · simp only [List.filterMap_append, first.names, later.names]
  · rw [List.filterMap_append]
    exact List.rel_append each each'
  · rw [List.reduceOption_append, List.filterMap_append, fragments, fragments']
  · simp only [List.filterMap_append, first.modifiers, later.modifiers]

/-- The parameter of a slot between two texts. -/
theorem conserves_slot {k : Key} {slot : Option Slot} (fills : k.Fills o slot)
    (sound : ∀ b ∈ slot.elim [] Slot.bodies, b.Sound)
    (leads : Literal bs k.lead) (trails : Literal bs' k.trail) :
    Conserves o (bs ++ slot.elim [] Slot.bodies ++ bs' ++ k.modifier.toList.map .modifier)
      [.param k] := by
  have others : (slot.elim [] Slot.bodies).filterMap Body.char? = [] ∧
      (slot.elim [] Slot.bodies).filterMap Body.modifier? = [] := by
    rcases slot with _ | ⟨n, _ | f⟩ | f <;> exact ⟨rfl, rfl⟩
  obtain ⟨own, has, fragments⟩ := fills.exists_fragment sound
  refine ⟨?_, ?_, ⟨[own], .cons has .nil, ?_⟩, ?_⟩
  · simp only [List.filterMap_append, leads.reads, others.1, trails.reads]
    cases k.modifier <;> simp [characters, Body.char?]
  · simp only [List.filterMap_append, leads.names, fills.given sound, trails.names]
    cases given : k.name.given? <;> cases k.modifier <;> simp [given, key?, Body.name?]
  · simp only [List.filterMap_append, leads.fragments, ← fragments, trails.fragments]
    cases own <;> cases k.modifier <;> simp [Body.fragment?]
  · simp only [List.filterMap_append, leads.modifiers, others.2, trails.modifiers]
    cases m : k.modifier <;> simp [m, key?, Body.modifier?]

/-- Braces stand for nothing themselves. -/
theorem filterMap_group {β : Type} {g : Body → Option β} (opening : g .opening = none)
    (closing : g .closing = none) (bs : List Body) (slot : List Body) (bs' m : List Body) :
    (.opening :: bs ++ slot ++ bs' ++ .closing :: m).filterMap g =
      (bs ++ slot ++ bs' ++ m).filterMap g := by
  simp [opening, closing]

theorem Written.conserves (written : Written o t bs) (sound : ∀ b ∈ bs, b.Sound) :
    Conserves o bs [t] := by
  cases written with
  | @text t bs filled literal =>
    refine ⟨?_, ?_, ⟨[], .nil, ?_⟩, ?_⟩
    · simp [characters, literal.reads]
    · simp [key?, literal.names]
    · simp [literal.fragments]
    · simp [key?, literal.modifiers]
  | @param k slot fills trail lead =>
    have leads : Literal (k.lead.map .char) k.lead := .map_char k.lead
    have trails : Literal [] k.trail := by rw [trail]; exact .nil
    have sound' : ∀ b ∈ slot.bodies, b.Sound := fun b member => sound b (by simp [member])
    simpa using conserves_slot fills sound' leads trails
  | @group k slot bs bs' fills leads trails =>
    have sound' : ∀ b ∈ slot.elim [] Slot.bodies, b.Sound := fun b member => sound b (by simp [member])
    -- The braces add nothing to what stands between them.
    have bare := conserves_slot fills sound' leads trails
    refine ⟨?_, ?_, ?_, ?_⟩
    · exact bare.characters.trans (filterMap_group rfl rfl ..).symm
    · exact bare.names.trans (filterMap_group rfl rfl ..).symm
    · rw [filterMap_group rfl rfl]
      exact bare.fragments
    · exact bare.modifiers.trans (filterMap_group rfl rfl ..).symm

theorem conserves_of_written {slices : List (List Body)} (each : List.Forall₂ (Written o) ts slices)
    (sound : ∀ b ∈ slices.flatten, b.Sound) : Conserves o slices.flatten ts := by
  induction each with
  | nil => exact ⟨rfl, rfl, ⟨[], .nil, rfl⟩, rfl⟩
  | @cons t bs ts slices written _ ih =>
    rw [List.flatten_cons, List.forall_mem_append] at sound
    exact (written.conserves sound.1).append (ih sound.2)

/-- Reading a pattern loses nothing of its lexemes, doubles nothing and moves nothing: the tokens have
the characters, the names, the fragments and the modifiers of the lexemes. A parameter without a fragment
of its own matches what the delimiters leave, and a group of literal text has none. -/
theorem ofPattern?_conserves {pattern : Text} (read : ofPattern? o pattern = .ok ts) :
    ∃ ls, Lexeme.scan pattern = .ok ls ∧ Conserves o (ls.map (·.body)) ts := by
  obtain ⟨ls, slices, scanned, whole, each, sound⟩ := exists_written read
  have finish : Conserves o [.finish] [] := ⟨rfl, rfl, ⟨[], .nil, rfl⟩, rfl⟩
  refine ⟨ls, scanned, ?_⟩
  rw [whole]
  simpa using (conserves_of_written each sound).append finish

theorem ofPattern?_conserves_mixed : ∃ ts ls, ofPattern? {} "\\*:id(x){-b}?*rest".toList = .ok ts ∧
    Lexeme.scan "\\*:id(x){-b}?*rest".toList = .ok ls ∧ Conserves {} (ls.map (·.body)) ts ∧
    ts.flatMap characters = "*-b".toList := by
  have evaluated : (ofPattern? {} "\\*:id(x){-b}?*rest".toList).toOption.map
      (·.flatMap characters) = some "*-b".toList := by decide +kernel
  obtain ⟨ts, found, kept⟩ := Option.map_eq_some_iff.1 evaluated
  have read := eq_ok_of_toOption found
  obtain ⟨ls, scanned, conserves⟩ := ofPattern?_conserves read
  exact ⟨ts, ls, read, scanned, conserves, kept⟩

end Token

end RoutePattern
