import Mathlib.Algebra.BigOperators.Group.List.Basic
import RoutePattern.Proofs.Lexeme.Step
import RoutePattern.Proofs.Token.Phrase
import RoutePattern.Proofs.Token.Plain

/-! # How tokens are written

Every token of a pattern is written as a run of its lexemes, and these runs are all of the pattern
(`Token.exists_written`). A phrase is written as its lexemes, and a run of characters that is open goes
with the next token.
-/

namespace RoutePattern

namespace Lexeme

namespace Body

/-- The character that the lexeme stands for. -/
def char? : Body → Option Char
  | char c | escaped c => some c
  | _ => none

def name? : Body → Option Text
  | name n => some n
  | _ => none

def fragment? : Body → Option Text
  | fragment f => some f
  | _ => none

def modifier? : Body → Option Modifier
  | modifier m => some m
  | _ => none

/-- The name or the fragment of the lexeme is one. -/
def Sound : Body → Prop
  | name n => n ≠ [] ∧ ∀ c ∈ n, isNameChar c = true
  | fragment f => IsFragment f
  | _ => True

end Body

theorem Begins.sound {rest head : Text} {bound : Bool} {bs : List Body}
    (begins : Begins rest bound head bs) : ∀ b ∈ bs, b.Sound := by
  cases begins with
  | name _ isName => exact List.forall_mem_singleton.2 ⟨isName.nonempty, isName.characters⟩
  | fragment _ isFragment => exact List.forall_mem_singleton.2 isFragment
  | starred isName =>
    have name : Body.Sound (.name _) := ⟨isName.nonempty, isName.characters⟩
    exact List.forall_mem_cons.2 ⟨name, List.forall_mem_singleton.2 trivial⟩
  | _ => simp [Body.Sound]

theorem Scans.sound {behind t : Text} {index : Nat} {bound final : Bool} {ls : List Lexeme}
    (scans : Scans behind index bound t ls final) : ∀ l ∈ ls, l.body.Sound := by
  induction scans with
  | nil => exact nofun
  | step begins _ ih =>
    simp only [List.forall_mem_append, List.forall_mem_map]
    exact ⟨begins.sound, ih⟩

theorem sound_of_scan {pattern : Text} {ls : List Lexeme} (scanned : scan pattern = .ok ls) :
    ∀ l ∈ ls, l.body.Sound := by
  obtain ⟨inner, final, scans, rfl⟩ := scanFrom_eq_ok_iff.1 scanned
  exact List.forall_mem_append.2 ⟨scans.sound, List.forall_mem_singleton.2 trivial⟩

/-- The lexemes stand for the characters of a text. -/
structure Literal (bs : List Body) (t : Text) : Prop where
  chars : ∀ b ∈ bs, b.char?.isSome = true
  reads : bs.filterMap Body.char? = t

theorem Literal.nil : Literal [] [] := ⟨nofun, rfl⟩

theorem Literal.eq_nil {bs : List Body} (literal : Literal bs []) : bs = [] := by
  have none := List.filterMap_eq_nil_iff.1 literal.reads
  refine List.eq_nil_iff_forall_not_mem.2 fun b member => ?_
  have present := literal.chars b member
  rw [none b member] at present
  cases present

/-- Nothing else is read from the lexemes of a text. -/
theorem Literal.filterMap_eq_nil {bs : List Body} {t : Text} (literal : Literal bs t) {β : Type}
    {g : Body → Option β} (char : ∀ c, g (.char c) = none) (escaped : ∀ c, g (.escaped c) = none) :
    bs.filterMap g = [] := by
  refine List.filterMap_eq_nil_iff.2 fun b member => ?_
  have present := literal.chars b member
  cases b with
  | char c => exact char c
  | escaped c => exact escaped c
  | _ => cases present

theorem Literal.names {bs : List Body} {t : Text} (literal : Literal bs t) :
    bs.filterMap Body.name? = [] := literal.filterMap_eq_nil (fun _ => rfl) fun _ => rfl

theorem Literal.fragments {bs : List Body} {t : Text} (literal : Literal bs t) :
    bs.filterMap Body.fragment? = [] := literal.filterMap_eq_nil (fun _ => rfl) fun _ => rfl

theorem Literal.modifiers {bs : List Body} {t : Text} (literal : Literal bs t) :
    bs.filterMap Body.modifier? = [] := literal.filterMap_eq_nil (fun _ => rfl) fun _ => rfl

theorem Literal.map_char (t : Text) : Literal (t.map .char) t := by
  constructor <;> simp [Body.char?, Function.comp_def]

theorem Literal.append {bs bs' : List Body} {t t' : Text} (first : Literal bs t)
    (second : Literal bs' t') : Literal (bs ++ bs') (t ++ t') where
  chars := by simpa [or_imp, forall_and] using ⟨first.chars, second.chars⟩
  reads := by rw [List.filterMap_append, first.reads, second.reads]

theorem Literal.char {bs : List Body} {pending : Text} (literal : Literal bs pending.reverse)
    (c : Char) : Literal (bs ++ [.char c]) (c :: pending).reverse := by
  rw [List.reverse_cons]
  exact literal.append ⟨by simp [Body.char?], rfl⟩

theorem Literal.escaped {bs : List Body} {pending : Text} (literal : Literal bs pending.reverse)
    (c : Char) : Literal (bs ++ [.escaped c]) (c :: pending).reverse := by
  rw [List.reverse_cons]
  exact literal.append ⟨by simp [Body.char?], rfl⟩

end Lexeme

open Lexeme (Body IsFragment Literal)

/-- The lexemes of a parameter. -/
def Slot.bodies : Slot → List Body
  | named n f => .name n :: f.toList.map .fragment
  | unnamed f => [.fragment f]

/-! ## Phrases -/

namespace Phrase

variable {l : Lexeme} {ls behind : List Lexeme} {p : Phrase}

/-- The phrase is written as these lexemes. -/
inductive Written : Phrase → List Body → Prop
  | char (c : Char) : Written (.char c) [.char c]
  | escaped (c : Char) : Written (.escaped c) [.escaped c]
  | param (slot : Slot) (m : Option Modifier) :
      Written (.param slot m) (slot.bodies ++ m.toList.map .modifier)
  | group {bs bs' : List Body} {lead trail : Text} (slot : Option Slot) (m : Option Modifier)
      (leads : Literal bs lead) (trails : Literal bs' trail) :
      Written (.group lead slot trail m)
        (.opening :: bs ++ slot.elim [] Slot.bodies ++ bs' ++ .closing :: m.toList.map .modifier)

theorem charOf?_eq (l : Lexeme) : charOf? l = l.body.char? := by
  obtain ⟨index, body⟩ := l
  cases body <;> rfl

/-- The characters at the start, as they are written. -/
theorem exists_leadingText (ls : List Lexeme) : ∃ bs, Literal bs (leadingText ls) ∧
    ls.map (·.body) = bs ++ (behindText ls).map (·.body) := by
  refine ⟨(ls.takeWhile (charOf? · |>.isSome)).map (·.body), ⟨?_, ?_⟩, ?_⟩
  · intro b member
    obtain ⟨l, taken, rfl⟩ := List.mem_map.1 member
    rw [← charOf?_eq]
    exact List.all_eq_true.1 List.all_takeWhile l taken
  · simp only [leadingText, List.filterMap_map, funext charOf?_eq]
    rfl
  · rw [behindText, ← List.map_append, List.takeWhile_append_dropWhile]

theorem leadingFragment?_eq (ls : List Lexeme) : ls.map (·.body) =
    (leadingFragment? ls).1.toList.map .fragment ++ (leadingFragment? ls).2.map (·.body) := by
  unfold leadingFragment?
  split <;> rfl

theorem leadingSlot?_eq (ls : List Lexeme) : ls.map (·.body) =
    (leadingSlot? ls).1.elim [] Slot.bodies ++ (leadingSlot? ls).2.map (·.body) := by
  unfold leadingSlot?
  split
  · rename_i rest
    simp [Slot.bodies, leadingFragment?_eq rest]
  · rfl
  · rfl

theorem leadingModifier?_eq (ls : List Lexeme) : ls.map (·.body) =
    (leadingModifier? ls).1.toList.map .modifier ++ (leadingModifier? ls).2.map (·.body) := by
  unfold leadingModifier?
  split <;> rfl

theorem exists_written_group (read : groupFrom ls = .ok (p, behind)) : ∃ bs, Written p bs ∧
    .opening :: ls.map (·.body) = bs ++ behind.map (·.body) := by
  obtain ⟨lead, leads, first⟩ := exists_leadingText ls
  obtain ⟨trail, trails, second⟩ := exists_leadingText (leadingSlot? (behindText ls)).2
  simp only [groupFrom] at read
  split at read
  · rename_i index rest closed
    obtain ⟨rfl, rfl⟩ := Prod.mk.inj (Except.ok.inj read)
    refine ⟨_, .group _ _ leads trails, ?_⟩
    rw [first, leadingSlot?_eq (behindText ls), second, closed, List.map_cons,
      leadingModifier?_eq rest]
    simp
  · cases read
  · cases read

theorem exists_written_next (read : next l ls = .ok (p, behind)) : ∃ bs, Written p bs ∧
    l.body :: ls.map (·.body) = bs ++ behind.map (·.body) := by
  obtain ⟨index, body⟩ := l
  cases body with
  | char c =>
    obtain ⟨rfl, rfl⟩ := Prod.mk.inj (Except.ok.inj read)
    exact ⟨_, .char c, rfl⟩
  | escaped c =>
    obtain ⟨rfl, rfl⟩ := Prod.mk.inj (Except.ok.inj read)
    exact ⟨_, .escaped c, rfl⟩
  | name n =>
    simp only [next, Except.ok.injEq, Prod.mk.injEq] at read
    obtain ⟨rfl, rfl⟩ := read
    refine ⟨_, .param _ _, ?_⟩
    rw [leadingFragment?_eq ls, leadingModifier?_eq (leadingFragment? ls).2]
    simp [Slot.bodies]
  | fragment f =>
    obtain ⟨rfl, rfl⟩ := Prod.mk.inj (Except.ok.inj read)
    refine ⟨_, .param _ _, ?_⟩
    rw [leadingModifier?_eq ls]
    rfl
  | opening => exact exists_written_group read
  | closing | modifier m | finish => cases read

/-- Phrases are written one behind the other, up to the end of the pattern. -/
theorem exists_written (ends : Ends ls) {ps : List Phrase} (read : ofLexemes ls = .ok ps) :
    ∃ slices, List.Forall₂ Written ps slices ∧ ls.map (·.body) = slices.flatten ++ [.finish] := by
  fun_induction ofLexemes ls generalizing ps with
  | case1 =>
    obtain ⟨inner, last, same, -⟩ := ends
    simp at same
  | case2 l rest mark =>
    obtain rfl := Except.ok.inj read
    obtain ⟨inner, last, same, others, -⟩ := ends
    cases inner with
    | nil =>
      obtain ⟨rfl, rfl⟩ := List.cons.inj same
      exact ⟨[], .nil, by simp [mark]⟩
    | cons l' inner =>
      obtain ⟨rfl, -⟩ := List.cons.inj same
      exact absurd mark (others l List.mem_cons_self)
  | case3 => cases read
  | case4 l rest goes p behind found ih =>
    -- The end of the pattern is behind the phrase, since no phrase takes it.
    obtain ⟨s, passes, settled⟩ := passes_next found
    have later := ends.later passes settled.ne_ended
    obtain ⟨ps', more, rfl⟩ := map_eq_ok_iff.1 read
    obtain ⟨bs, written, here⟩ := exists_written_next found
    obtain ⟨slices, each, whole⟩ := ih later more
    refine ⟨bs :: slices, .cons written each, ?_⟩
    rw [List.map_cons, here, whole, List.flatten_cons, List.append_assoc]

end Phrase

/-! ## Tokens -/

namespace Key

/-- The parameter has the name and the fragment of a slot. A group without a slot has neither. -/
def Fills (o : Options) (k : Key) : Option Slot → Prop
  | some (.named n f) => k.name = .named n ∧ k.fragment = f.getD o.segment
  | some (.unnamed f) => (∃ i, k.name = .ordinal i) ∧ k.fragment = f
  | none => k.name = .named [] ∧ k.fragment = []

/-- A fragment that is not the one for a segment stands in the slot. -/
theorem Fills.isFragment {o : Options} {k : Key} {slot : Option Slot} (fills : k.Fills o slot)
    (sound : ∀ b ∈ slot.elim [] Slot.bodies, b.Sound) (captures : k.captures = true)
    (own : k.fragment ≠ o.segment) : IsFragment k.fragment := by
  match slot, fills with
  | none, ⟨_, fragment⟩ => simp [Key.captures, fragment] at captures
  | some (.unnamed f), ⟨_, fragment⟩ => exact fragment ▸ sound (.fragment f) List.mem_cons_self
  | some (.named n none), ⟨_, fragment⟩ => exact absurd fragment own
  | some (.named n (some f)), ⟨_, fragment⟩ =>
    exact fragment ▸ sound (.fragment f) (by simp [Slot.bodies])

end Key

namespace Token

variable {o : Options} {ordinal : Nat} {pending : Text} {ts : List Token}

/-- The token is written as these lexemes. -/
inductive Written (o : Options) : Token → List Body → Prop
  | text {t : Text} {bs : List Body} (filled : t ≠ []) (literal : Literal bs t) :
      Written o (.text t) bs
  | param {k : Key} {slot : Slot} (fills : k.Fills o (some slot)) (trail : k.trail = [])
      (lead : k.lead = [] ∨ ∃ c ∈ o.prefixes, k.lead = [c]) :
      Written o (.param k)
        (k.lead.map .char ++ slot.bodies ++ k.modifier.toList.map .modifier)
  | group {k : Key} {slot : Option Slot} {bs bs' : List Body} (fills : k.Fills o slot)
      (leads : Literal bs k.lead) (trails : Literal bs' k.trail) :
      Written o (.param k) (.opening :: bs ++ slot.elim [] Slot.bodies ++ bs' ++
        .closing :: k.modifier.toList.map .modifier)

theorem Written.ne_nil {t : Token} {bs : List Body} (written : Written o t bs) : bs ≠ [] := by
  cases written with
  | text filled literal =>
    rintro rfl
    exact filled literal.reads.symm
  | @param k slot => cases slot <;> simp [Slot.bodies]
  | group => simp

theorem fills_ofSlot {slot : Slot} {name : Name} {fragment : Text} {next : Nat}
    (found : ofSlot o.segment ordinal slot = (name, fragment, next)) (lead trail : Text)
    (m : Option Modifier) : Key.Fills o ⟨name, lead, trail, fragment, m⟩ (some slot) := by
  cases slot with
  | named n f =>
    obtain ⟨rfl, rfl, -⟩ := found
    exact ⟨rfl, rfl⟩
  | unnamed f =>
    obtain ⟨rfl, rfl, -⟩ := found
    exact ⟨⟨ordinal, rfl⟩, rfl⟩

/-- The tokens are written as these lexemes, one behind the other. -/
def AreWritten (o : Options) (ts : List Token) (bs : List Body) : Prop :=
  ∃ slices, List.Forall₂ (Written o) ts slices ∧ bs = slices.flatten

theorem AreWritten.nil : AreWritten o [] [] := ⟨[], .nil, rfl⟩

theorem AreWritten.cons {t : Token} {bs bs' : List Body} (first : Written o t bs)
    (later : AreWritten o ts bs') : AreWritten o (t :: ts) (bs ++ bs') := by
  obtain ⟨slices, each, rfl⟩ := later
  exact ⟨bs :: slices, .cons first each, rfl⟩

/-- A text in front, which may be empty. -/
theorem AreWritten.behind {t : Text} {bs bs' : List Body} (literal : Literal bs t)
    (later : AreWritten o ts bs') : AreWritten o (ofText t ++ ts) (bs ++ bs') := by
  cases t with
  | nil =>
    -- There is no token for an empty text, and there are no lexemes either.
    obtain rfl : bs = [] := literal.eq_nil
    exact later
  | cons c t => exact .cons (.text (List.cons_ne_nil c t) literal) later

/-- A run of characters that is open belongs to the next text. -/
theorem areWritten_ofPhrases {ps : List Phrase} {slices : List (List Body)} {bs : List Body}
    (each : List.Forall₂ Phrase.Written ps slices) (literal : Literal bs pending.reverse) :
    AreWritten o (ofPhrases o ordinal pending ps) (bs ++ slices.flatten) := by
  -- Each parameter ends the run and starts the next one; a character before it goes with one of them.
  fun_induction ofPhrases o ordinal pending ps generalizing slices bs with
  | case1 ordinal pending =>
    cases each
    simpa using AreWritten.nil.behind literal
  | case2 ordinal pending c slot m rest name fragment next found listed ih =>
    obtain _ | ⟨⟨⟩, _ | ⟨⟨⟩, each⟩⟩ := each
    have here : Written o (.param ⟨name, [c], [], fragment, m⟩) _ :=
      .param (fills_ofSlot found [c] [] m) rfl (.inr ⟨c, by simpa using listed, rfl⟩)
    simpa using ((ih each .nil).cons here).behind literal
  | case3 ordinal pending c slot m rest name fragment next found _ ih =>
    obtain _ | ⟨⟨⟩, _ | ⟨⟨⟩, each⟩⟩ := each
    have here : Written o (.param ⟨name, [], [], fragment, m⟩) _ :=
      .param (fills_ofSlot found [] [] m) rfl (.inl rfl)
    simpa using ((ih each .nil).cons here).behind (literal.char c)
  | case4 ordinal pending c rest _ ih =>
    obtain _ | ⟨⟨⟩, each⟩ := each
    simpa using ih each (literal.char c)
  | case5 ordinal pending c rest ih =>
    obtain _ | ⟨⟨⟩, each⟩ := each
    simpa using ih each (literal.escaped c)
  | case6 ordinal pending slot m rest name fragment next found ih =>
    obtain _ | ⟨⟨⟩, each⟩ := each
    have here : Written o (.param ⟨name, [], [], fragment, m⟩) _ :=
      .param (fills_ofSlot found [] [] m) rfl (.inl rfl)
    simpa using ((ih each .nil).cons here).behind literal
  | case7 ordinal pending lead trail m rest ih =>
    obtain _ | ⟨here, each⟩ := each
    cases here with | group _ _ leads trails
    have fills : Key.Fills o ⟨.named [], lead, trail, [], m⟩ none := ⟨rfl, rfl⟩
    have here : Written o (.param ⟨.named [], lead, trail, [], m⟩) _ := .group fills leads trails
    simpa using ((ih each .nil).cons here).behind literal
  | case8 ordinal pending lead slot trail m rest name fragment next found ih =>
    obtain _ | ⟨here, each⟩ := each
    cases here with | group _ _ leads trails
    have here : Written o (.param ⟨name, lead, trail, fragment, m⟩) _ :=
      .group (fills_ofSlot found lead trail m) leads trails
    simpa using ((ih each .nil).cons here).behind literal

/-- A pattern is written as its tokens, one behind the other. -/
theorem exists_written {pattern : Text} (read : ofPattern? o pattern = .ok ts) :
    ∃ ls slices, Lexeme.scan pattern = .ok ls ∧ ls.map (·.body) = slices.flatten ++ [.finish] ∧
      List.Forall₂ (Written o) ts slices ∧ ∀ b ∈ slices.flatten, b.Sound := by
  obtain ⟨ls, ps, scanned, phrases, rfl⟩ := ofPattern?_eq_ok_iff.1 read
  obtain ⟨inner, marked, others⟩ := (Lexeme.spells_scanFrom scanned).finished
  obtain ⟨runs, each, whole⟩ := Phrase.exists_written ⟨inner, _, marked, others, rfl⟩ phrases
  have closed : Literal [] ([] : Text).reverse := .nil
  obtain ⟨slices, written, same⟩ := areWritten_ofPhrases each closed
  rw [← List.nil_append runs.flatten, same] at whole
  refine ⟨ls, slices, scanned, whole, written, fun b member => ?_⟩
  have listed : b ∈ ls.map (·.body) := by simp [whole, member]
  obtain ⟨l, scan, rfl⟩ := List.mem_map.1 listed
  exact Lexeme.sound_of_scan scanned l scan

/-- Each fragment of the tokens is the one for a segment or stands in the pattern. -/
theorem isFragment_of_ofPattern? {pattern : Text} (read : ofPattern? o pattern = .ok ts) {k : Key}
    (member : k ∈ keys ts) (own : k.fragment ≠ o.segment) : IsFragment k.fragment := by
  obtain ⟨listed, captures⟩ := mem_keys.1 member
  obtain ⟨-, slices, -, -, each, sound⟩ := exists_written read
  obtain ⟨bs, slice, written⟩ := exists_related each listed
  have sound : ∀ b ∈ bs, b.Sound := fun b here => sound b (List.mem_flatten.2 ⟨bs, slice, here⟩)
  cases written with
  | param fills =>
    exact fills.isFragment (fun b here => sound b (by simp_all)) captures own
  | group fills =>
    exact fills.isFragment (fun b here => sound b (by simp_all)) captures own

/-- A pattern is at least as long as the list of its tokens. -/
theorem length_le_of_ofPattern? {pattern : Text} (read : ofPattern? o pattern = .ok ts) :
    ts.length ≤ pattern.length := by
  obtain ⟨ls, slices, scanned, whole, each, -⟩ := exists_written read
  have lexemes := (Lexeme.spells_scanFrom scanned).length_le
  have filled : ∀ n ∈ slices.map List.length, 1 ≤ n := by
    intro n member
    obtain ⟨bs, listed, rfl⟩ := List.mem_map.1 member
    obtain ⟨t, -, written⟩ := exists_related each.flip listed
    exact List.length_pos_iff.2 (Written.ne_nil written)
  calc
    ts.length = slices.length := each.length_eq
    _ ≤ slices.flatten.length := by
      rw [List.length_flatten]
      simpa using List.length_le_sum_of_one_le _ filled
    _ ≤ pattern.length := by
      have same : ls.length = slices.flatten.length + 1 := by
        rw [← List.length_map Lexeme.body, whole, List.length_append, List.length_singleton]
      omega

end Token

end RoutePattern
