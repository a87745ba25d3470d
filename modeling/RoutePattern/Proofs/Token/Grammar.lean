import Mathlib.Computability.Language
import Mathlib.Data.Fintype.Defs
import RoutePattern.Lexeme

/-! # The grammar of patterns

Which lists of lexemes are patterns, as a language over the kinds of lexemes (`Grammar.sentence`), and an
automaton that reads it. The automaton accepts just the sentences (`mem_sentence_iff`), and it has gone on
to some state just where the lexemes read so far begin a sentence (`viable_iff`).
-/

namespace RoutePattern

namespace Lexeme

inductive Kind where
  | opening | closing | fragment | name | char | escaped | modifier | finish
deriving DecidableEq

def Body.kind : Body → Kind
  | opening => .opening
  | closing => .closing
  | fragment _ => .fragment
  | name _ => .name
  | char _ => .char
  | escaped _ => .escaped
  | modifier _ => .modifier
  | finish => .finish

def kinds (ls : List Lexeme) : List Kind := ls.map (·.body.kind)

theorem kinds_append (ls ms : List Lexeme) : kinds (ls ++ ms) = kinds ls ++ kinds ms :=
  List.map_append

end Lexeme

open Lexeme (Kind)

namespace Grammar

/-! ## Sentences -/

def one (k : Kind) : Language Kind := {[k]}

/-- One or nothing. -/
def maybe (L : Language Kind) : Language Kind := L + 1

def text : Language Kind := one .char + one .escaped

def maybeName : Language Kind := maybe (one .name)

def maybeFragment : Language Kind := maybe (one .fragment)

def maybeModifier : Language Kind := maybe (one .modifier)

/-- A parameter with a name, a fragment or both. -/
def slot : Language Kind := one .name * maybeFragment + one .fragment

def group : Language Kind :=
  one .opening * KStar.kstar text * maybeName * maybeFragment * KStar.kstar text * one .closing

def item : Language Kind := text + (slot + group) * maybeModifier

/-- A whole pattern. -/
def sentence : Language Kind := KStar.kstar item * one .finish

/-- With more lexemes these are a whole pattern. -/
def Viable (before : List Kind) : Prop := ∃ more, before ++ more ∈ sentence

def isBrace (k : Kind) : Bool := k == .opening || k == .closing

/-- The last brace is an opening one. -/
def InGroup (before : List Kind) : Prop := (before.filter isBrace).getLast? = some .opening

instance (before : List Kind) : Decidable (InGroup before) :=
  inferInstanceAs (Decidable (_ = _))

section Languages

variable {L M : Language Kind} {k : Kind} {x : List Kind}

theorem cons_mem_one_mul (later : x ∈ L) : k :: x ∈ one k * L :=
  Language.append_mem_mul (a := [k]) rfl later

theorem mem_maybe_mul : x ∈ maybe L * M ↔ x ∈ L * M ∨ x ∈ M := by
  rw [maybe, add_mul, one_mul, Language.mem_add]

theorem mem_kstar_mul : x ∈ KStar.kstar L * M ↔ x ∈ M ∨ x ∈ L * (KStar.kstar L * M) := by
  rw [← mul_assoc, ← Language.mem_add]
  nth_rewrite 1 [← Language.one_add_self_mul_kstar_eq_kstar]
  rw [add_mul, one_mul]

theorem cons_mem_text_mul (here : k = .char ∨ k = .escaped) (later : x ∈ L) : k :: x ∈ text * L := by
  rw [text, add_mul, Language.mem_add]
  rcases here with rfl | rfl
  · exact .inl (cons_mem_one_mul later)
  · exact .inr (cons_mem_one_mul later)

/-- A pattern ends or goes on with an item. -/
theorem mem_sentence_unfold :
    x ∈ sentence ↔ x ∈ one .finish ∨ x ∈ text * sentence ∨
      x ∈ slot * (maybeModifier * sentence) ∨ x ∈ group * (maybeModifier * sentence) := by
  have unfolded : x ∈ sentence ↔ x ∈ one .finish ∨ x ∈ item * sentence := mem_kstar_mul
  rw [unfolded, item]
  simp only [add_mul, mul_assoc, Language.mem_add]

end Languages

/-! ## An automaton -/

/-- How far a pattern has been read. -/
inductive State where
  /-- Before an item. -/
  | between
  /-- Behind a parameter or a group, which a modifier may follow. -/
  | bound
  /-- In a group, before its parameter. -/
  | lead
  /-- In a group, behind the name of its parameter. -/
  | named
  /-- In a group, behind its parameter. -/
  | trail
  | ended
deriving DecidableEq

namespace State

instance : Fintype State :=
  ⟨{between, bound, lead, named, trail, ended}, fun s => by cases s <;> decide⟩

def isOutside : State → Bool
  | between | bound => true
  | lead | named | trail | ended => false

def isInside : State → Bool
  | lead | named | trail => true
  | between | bound | ended => false

/-- The state behind a lexeme. -/
def next : State → Kind → Option State
  | between, .char | between, .escaped | bound, .char | bound, .escaped => some between
  | between, .name | between, .fragment | bound, .name | bound, .fragment => some bound
  | bound, .modifier => some between
  | between, .opening | bound, .opening => some lead
  | between, .finish | bound, .finish => some ended
  | lead, .char | lead, .escaped => some lead
  | lead, .name => some named
  | named, .char | named, .escaped | trail, .char | trail, .escaped => some trail
  | lead, .fragment | named, .fragment => some trail
  | lead, .closing | named, .closing | trail, .closing => some bound
  | _, _ => none

def run (s : State) : List Kind → Option State
  | [] => some s
  | k :: x => (s.next k).bind (·.run x)

theorem run_append (s : State) (x y : List Kind) : s.run (x ++ y) = (s.run x).bind (·.run y) := by
  induction x generalizing s with
  | nil => rfl
  | cons k x ih => simp only [List.cons_append, run, ih, Option.bind_assoc]

def behindSlot : Language Kind := maybeModifier * sentence

def behindFragment : Language Kind := KStar.kstar text * (one .closing * behindSlot)

def behindName : Language Kind := maybeFragment * behindFragment

/-- What may follow in a state. -/
def rest : State → Language Kind
  | between => sentence
  | bound => behindSlot
  | lead => KStar.kstar text * (maybeName * behindName)
  | named => behindName
  | trail => behindFragment
  | ended => 1

/-! ### What is accepted is a sentence -/

variable {s s' : State} {k : Kind} {x y : List Kind}

theorem mem_behindSlot (later : x ∈ sentence) : x ∈ behindSlot := mem_maybe_mul.2 (.inr later)

theorem mem_behindName (later : x ∈ behindFragment) : x ∈ behindName :=
  mem_maybe_mul.2 (.inr later)

theorem mem_rest_lead (later : x ∈ behindName) : x ∈ rest lead :=
  mem_kstar_mul.2 (.inl (mem_maybe_mul.2 (.inr later)))

theorem text_mem_behindFragment (here : k = .char ∨ k = .escaped) (later : x ∈ behindFragment) :
    k :: x ∈ behindFragment :=
  mem_kstar_mul.2 (.inr (cons_mem_text_mul here later))

theorem closing_mem_behindFragment (later : x ∈ behindSlot) : .closing :: x ∈ behindFragment :=
  mem_kstar_mul.2 (.inl (cons_mem_one_mul later))

/-- What begins an item may follow an item. -/
theorem mem_sentence_of_next (step : between.next k = some s') (later : x ∈ s'.rest) :
    k :: x ∈ sentence := by
  rw [mem_sentence_unfold]
  cases k with
  | char | escaped =>
    obtain rfl := Option.some.inj step
    exact .inr (.inl (cons_mem_text_mul (by decide) later))
  | name =>
    obtain rfl := Option.some.inj step
    refine .inr (.inr (.inl ?_))
    rw [slot, add_mul, mul_assoc]
    exact .inl (cons_mem_one_mul (mem_maybe_mul.2 (.inr later)))
  | fragment =>
    obtain rfl := Option.some.inj step
    refine .inr (.inr (.inl ?_))
    rw [slot, add_mul]
    exact .inr (cons_mem_one_mul later)
  | opening =>
    obtain rfl := Option.some.inj step
    refine .inr (.inr (.inr ?_))
    simp only [group, mul_assoc]
    exact cons_mem_one_mul later
  | finish =>
    obtain rfl := Option.some.inj step
    obtain rfl : x = [] := later
    exact .inl rfl
  | modifier | closing => cases step

theorem mem_rest_of_next (step : s.next k = some s') (later : x ∈ s'.rest) : k :: x ∈ s.rest := by
  cases s with
  | between => exact mem_sentence_of_next step later
  | bound =>
    cases k with
    | modifier =>
      obtain rfl := Option.some.inj step
      exact mem_maybe_mul.2 (.inl (cons_mem_one_mul later))
    | _ => exact mem_behindSlot (mem_sentence_of_next step later)
  | lead =>
    cases k with
    | char | escaped =>
      obtain rfl := Option.some.inj step
      exact mem_kstar_mul.2 (.inr (cons_mem_text_mul (by decide) later))
    | name =>
      obtain rfl := Option.some.inj step
      exact mem_kstar_mul.2 (.inl (mem_maybe_mul.2 (.inl (cons_mem_one_mul later))))
    | fragment =>
      obtain rfl := Option.some.inj step
      exact mem_rest_lead (mem_maybe_mul.2 (.inl (cons_mem_one_mul later)))
    | closing =>
      obtain rfl := Option.some.inj step
      exact mem_rest_lead (mem_behindName (closing_mem_behindFragment later))
    | _ => cases step
  | named =>
    cases k with
    | char | escaped =>
      obtain rfl := Option.some.inj step
      exact mem_behindName (text_mem_behindFragment (by decide) later)
    | fragment =>
      obtain rfl := Option.some.inj step
      exact mem_maybe_mul.2 (.inl (cons_mem_one_mul later))
    | closing =>
      obtain rfl := Option.some.inj step
      exact mem_behindName (closing_mem_behindFragment later)
    | _ => cases step
  | trail =>
    cases k with
    | char | escaped =>
      obtain rfl := Option.some.inj step
      exact text_mem_behindFragment (by decide) later
    | closing =>
      obtain rfl := Option.some.inj step
      exact closing_mem_behindFragment later
    | _ => cases step
  | ended => cases step

theorem mem_rest_of_run (ran : s.run x = some s') (later : y ∈ s'.rest) : x ++ y ∈ s.rest := by
  induction x generalizing s with
  | nil =>
    obtain rfl := Option.some.inj ran
    exact later
  | cons k x ih =>
    obtain ⟨next, step, ran⟩ := Option.bind_eq_some_iff.1 ran
    exact mem_rest_of_next step (ih ran)

/-- From every state a pattern can be ended. -/
theorem exists_mem_rest (s : State) : ∃ x, x ∈ s.rest := by
  have sentence : [.finish] ∈ sentence := mem_sentence_of_next rfl ((Language.mem_one []).2 rfl)
  have group := closing_mem_behindFragment (mem_behindSlot sentence)
  cases s with
  | between => exact ⟨_, sentence⟩
  | bound => exact ⟨_, mem_behindSlot sentence⟩
  | lead => exact ⟨_, mem_rest_lead (mem_behindName group)⟩
  | named => exact ⟨_, mem_behindName group⟩
  | trail => exact ⟨_, group⟩
  | ended => exact ⟨[], rfl⟩

end State

/-! ### All sentences are accepted -/

/-- From any state of one kind the lexemes lead to a state of another kind. -/
def Leads (L : Language Kind) (P Q : State → Bool) : Prop :=
  ∀ x ∈ L, ∀ s, P s = true → ∃ s', s.run x = some s' ∧ Q s' = true

section Leads

variable {L M : Language Kind} {P Q R : State → Bool}

theorem leads_one {k : Kind} (step : ∀ s, P s = true → (s.next k).any Q = true) :
    Leads (one k) P Q := by
  rintro x rfl s start
  obtain ⟨s', next, stop⟩ := (Option.any_eq_true Q (s.next k)).1 (step s start)
  exact ⟨s', by rw [State.run, next]; rfl, stop⟩

theorem Leads.mul (first : Leads L P Q) (second : Leads M Q R) : Leads (L * M) P R := by
  intro x member s start
  obtain ⟨x, left, y, right, rfl⟩ := Language.mem_mul.1 member
  obtain ⟨r, ran, middle⟩ := first x left s start
  obtain ⟨q, ran', stop⟩ := second y right r middle
  exact ⟨q, by rw [State.run_append, ran, Option.bind_some, ran'], stop⟩

theorem Leads.add (first : Leads L P Q) (second : Leads M P Q) : Leads (L + M) P Q := by
  intro x member s start
  rcases (Language.mem_add L M x).1 member with left | right
  · exact first x left s start
  · exact second x right s start

theorem Leads.maybe (once : Leads L P Q) (weaker : ∀ s, P s = true → Q s = true) :
    Leads (maybe L) P Q := by
  refine once.add ?_
  rintro x rfl s start
  exact ⟨s, rfl, weaker s start⟩

theorem Leads.kstar (once : Leads L P P) : Leads (KStar.kstar L) P P := by
  intro x member
  obtain ⟨xs, rfl, each⟩ := Language.mem_kstar.1 member
  clear member
  induction xs with
  | nil => exact fun s start => ⟨s, rfl, start⟩
  | cons x xs ih =>
    intro s start
    rw [List.forall_mem_cons] at each
    obtain ⟨r, ran, middle⟩ := once x each.1 s start
    obtain ⟨q, ran', stop⟩ := ih each.2 r middle
    exact ⟨q, by rw [List.flatten_cons, State.run_append, ran, Option.bind_some, ran'], stop⟩

end Leads

theorem leads_slot : Leads slot State.isOutside (· == .bound) := by
  have name : Leads (one .name) State.isOutside (· == .bound) := leads_one (by decide)
  have fragment : Leads (one .fragment) State.isOutside (· == .bound) := leads_one (by decide)
  have further : Leads (one .fragment) (· == .bound) (· == .bound) := leads_one (by decide)
  exact (name.mul (further.maybe (by decide))).add fragment

theorem leads_group : Leads group State.isOutside (· == .bound) := by
  have opening : Leads (one .opening) State.isOutside (· == .lead) := leads_one (by decide)
  have lead : Leads text (· == .lead) (· == .lead) :=
    (leads_one (by decide)).add (leads_one (by decide))
  have name : Leads (one .name) (· == .lead) (fun s => s == .lead || s == .named) :=
    leads_one (by decide)
  have fragment : Leads (one .fragment) (fun s => s == .lead || s == .named) State.isInside :=
    leads_one (by decide)
  have trail : Leads text State.isInside State.isInside :=
    (leads_one (by decide)).add (leads_one (by decide))
  have closing : Leads (one .closing) State.isInside (· == .bound) := leads_one (by decide)
  exact ((((opening.mul lead.kstar).mul (name.maybe (by decide))).mul
    (fragment.maybe (by decide))).mul trail.kstar).mul closing

theorem leads_item : Leads item State.isOutside State.isOutside := by
  have text : Leads text State.isOutside State.isOutside :=
    (leads_one (by decide)).add (leads_one (by decide))
  have modifier : Leads (one .modifier) (· == .bound) State.isOutside := leads_one (by decide)
  exact text.add ((leads_slot.add leads_group).mul (modifier.maybe (by decide)))

/-- The automaton reads just the sentences to their end. -/
theorem mem_sentence_iff {x : List Kind} : x ∈ sentence ↔ State.run .between x = some .ended := by
  constructor
  · intro member
    have finish : Leads (one .finish) State.isOutside (· == .ended) := leads_one (by decide)
    obtain ⟨s, ran, stop⟩ := (leads_item.kstar.mul finish) x member .between rfl
    rw [ran, eq_of_beq stop]
  · intro ran
    have read : x ++ [] ∈ sentence := State.mem_rest_of_run ran ((Language.mem_one []).2 rfl)
    rwa [List.append_nil] at read

/-- The automaton goes on just as long as there may be a sentence. -/
theorem viable_iff {x : List Kind} : Viable x ↔ ∃ s, State.run .between x = some s := by
  constructor
  · rintro ⟨more, member⟩
    rw [mem_sentence_iff, State.run_append] at member
    obtain ⟨s, ran, -⟩ := Option.bind_eq_some_iff.1 member
    exact ⟨s, ran⟩
  · rintro ⟨s, ran⟩
    obtain ⟨more, member⟩ := s.exists_mem_rest
    exact ⟨more, State.mem_rest_of_run ran member⟩

/-! ### Groups -/

namespace State

/-- The last brace that was read; a closing one stands for none at all. -/
def brace (s : State) : Kind := if s.isInside then .opening else .closing

variable {s s' : State}

theorem brace_next {k : Kind} (step : s.next k = some s') :
    s'.brace = if isBrace k then k else s.brace := by
  cases s <;> cases k <;> cases step <;> rfl

theorem brace_run {x : List Kind} (ran : s.run x = some s') :
    s'.brace = (x.filter isBrace).getLast?.getD s.brace := by
  induction x generalizing s with
  | nil =>
    obtain rfl := Option.some.inj ran
    rfl
  | cons k x ih =>
    obtain ⟨r, step, ran⟩ := Option.bind_eq_some_iff.1 ran
    rw [ih ran, brace_next step, List.filter_cons]
    split
    · rw [List.getLast?_cons, Option.getD_some]
    · rfl

theorem isInside_iff_inGroup {x : List Kind} (ran : between.run x = some s) :
    s.isInside = true ↔ InGroup x := by
  have opened : s.isInside = true ↔ s.brace = .opening := by
    cases s <;> decide
  rw [opened, brace_run ran, InGroup]
  cases (x.filter isBrace).getLast? with
  | none => decide
  | some k => rw [Option.getD_some, Option.some_inj]

end State

end Grammar

end RoutePattern
