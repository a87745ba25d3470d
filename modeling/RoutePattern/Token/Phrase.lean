import RoutePattern.SyntaxError

/-! # Phrases

The grammar of patterns. A phrase is a character, a parameter or a group in braces, and a group holds
at most one parameter between two texts. Reading looks one lexeme ahead and never goes back.
-/

namespace RoutePattern

/-- A parameter as written: named, or with nothing but a fragment. -/
inductive Slot where
  | named (name : Text) (fragment : Option Text)
  | unnamed (fragment : Text)
deriving DecidableEq, Repr

inductive Phrase where
  | char (c : Char)
  | escaped (c : Char)
  | param (slot : Slot) (modifier : Option Modifier)
  | group (lead : Text) (slot : Option Slot) (trail : Text) (modifier : Option Modifier)
deriving DecidableEq, Repr

namespace Phrase

/-- The text of a lexeme that stands for a character. -/
def charOf? : Lexeme → Option Char
  | ⟨_, .char c⟩ | ⟨_, .escaped c⟩ => some c
  | _ => none

/-- The characters at the start. -/
def leadingText (ls : List Lexeme) : Text := (ls.takeWhile (charOf? · |>.isSome)).filterMap charOf?

def behindText (ls : List Lexeme) : List Lexeme := ls.dropWhile (charOf? · |>.isSome)

def leadingFragment? : List Lexeme → Option Text × List Lexeme
  | ⟨_, .fragment f⟩ :: rest => (some f, rest)
  | rest => (none, rest)

def leadingSlot? : List Lexeme → Option Slot × List Lexeme
  | ⟨_, .name n⟩ :: rest =>
    let (f, rest) := leadingFragment? rest
    (some (.named n f), rest)
  | ⟨_, .fragment f⟩ :: rest => (some (.unnamed f), rest)
  | rest => (none, rest)

def leadingModifier? : List Lexeme → Option Modifier × List Lexeme
  | ⟨_, .modifier m⟩ :: rest => (some m, rest)
  | rest => (none, rest)

theorem length_behindText_le (ls : List Lexeme) : (behindText ls).length ≤ ls.length :=
  (ls.dropWhile_suffix _).length_le

theorem length_leadingFragment?_le (ls : List Lexeme) :
    (leadingFragment? ls).2.length ≤ ls.length := by
  unfold leadingFragment?
  split <;> simp

theorem length_leadingSlot?_le (ls : List Lexeme) :
    (leadingSlot? ls).2.length ≤ ls.length := by
  unfold leadingSlot?
  split
  · rename_i rest
    exact Nat.le_succ_of_le (length_leadingFragment?_le rest)
  · simp
  · simp

theorem length_leadingModifier?_le (ls : List Lexeme) :
    (leadingModifier? ls).2.length ≤ ls.length := by
  unfold leadingModifier?
  split <;> simp

/-- The group behind an opening brace, and the lexemes behind the group. -/
def groupFrom (ls : List Lexeme) : Except SyntaxError (Phrase × List Lexeme) :=
  let (slot, rest) := leadingSlot? (behindText ls)
  match behindText rest with
  | ⟨_, .closing⟩ :: behind =>
    let (modifier, behind) := leadingModifier? behind
    .ok (.group (leadingText ls) slot (leadingText rest) modifier, behind)
  | l :: _ => .error (.unexpected l .closing)
  | [] => .error (.unexpected ⟨0, .finish⟩ .closing)

/-- The phrase that begins with the lexeme `l`, and the lexemes behind it. -/
def next (l : Lexeme) (rest : List Lexeme) : Except SyntaxError (Phrase × List Lexeme) :=
  match l.body with
  | .char c => .ok (.char c, rest)
  | .escaped c => .ok (.escaped c, rest)
  | .name n =>
    let (f, rest) := leadingFragment? rest
    let (modifier, rest) := leadingModifier? rest
    .ok (.param (.named n f) modifier, rest)
  | .fragment f =>
    let (modifier, rest) := leadingModifier? rest
    .ok (.param (.unnamed f) modifier, rest)
  | .opening => groupFrom rest
  | .closing | .modifier _ | .finish => .error (.unexpected l .finish)

theorem groupFrom_length_le {ls behind : List Lexeme} {p : Phrase}
    (read : groupFrom ls = .ok (p, behind)) : behind.length ≤ ls.length := by
  grind [groupFrom, length_behindText_le, length_leadingSlot?_le, length_leadingModifier?_le]

theorem next_length_le {l : Lexeme} {rest behind : List Lexeme} {p : Phrase}
    (read : next l rest = .ok (p, behind)) : behind.length ≤ rest.length := by
  grind [next, → groupFrom_length_le, length_leadingFragment?_le, length_leadingModifier?_le]

/-- The phrases of a pattern up to its end. -/
def ofLexemes : List Lexeme → Except SyntaxError (List Phrase)
  | [] => .ok []
  | l :: rest =>
    if l.body = .finish then .ok []
    else
      match _next : next l rest with
      | .error e => .error e
      | .ok (p, behind) => (ofLexemes behind).map (p :: ·)
termination_by ls => ls.length
decreasing_by grind [→ next_length_le]

end Phrase

end RoutePattern
