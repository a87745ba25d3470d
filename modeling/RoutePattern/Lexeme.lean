import RoutePattern.Text

/-! # Lexemes

The smallest parts of a pattern. A list of lexemes ends with `finish`, which stands at the end of the
pattern.
-/

namespace RoutePattern

/-- How often a parameter or group may occur if not exactly once. -/
inductive Modifier where
  | optional | zeroOrMore | oneOrMore
deriving DecidableEq, Repr

namespace Modifier

def char : Modifier → Char
  | optional => '?'
  | zeroOrMore => '*'
  | oneOrMore => '+'

def ofChar? : Char → Option Modifier
  | '?' => some optional
  | '*' => some zeroOrMore
  | '+' => some oneOrMore
  | _ => none

/-- The occurrence may be left out. -/
def mayBeAbsent : Modifier → Bool
  | optional | zeroOrMore => true
  | oneOrMore => false

/-- There may be several occurrences. -/
def mayRepeat : Modifier → Bool
  | zeroOrMore | oneOrMore => true
  | optional => false

end Modifier

namespace Lexeme

inductive Body where
  | opening
  | closing
  /-- An expression between round brackets. -/
  | fragment (t : Text)
  | name (t : Text)
  | char (c : Char)
  | escaped (c : Char)
  | modifier (m : Modifier)
  | finish
deriving DecidableEq, Repr

namespace Body

def label : Body → String
  | opening => "OPEN"
  | closing => "CLOSE"
  | fragment _ => "PATTERN"
  | name _ => "NAME"
  | char _ => "CHAR"
  | escaped _ => "ESCAPED_CHAR"
  | modifier _ => "MODIFIER"
  | finish => "END"

def value : Body → Text
  | opening => ['{']
  | closing => ['}']
  | fragment t | name t => t
  | char c | escaped c => [c]
  | modifier m => [m.char]
  | finish => []

/-- A modifier right behind it applies to it. -/
def takesModifier : Body → Bool
  | name _ | fragment _ | closing => true
  | opening | char _ | escaped _ | modifier _ | finish => false

end Body

end Lexeme

structure Lexeme where
  /-- The number of bytes before it in the pattern. -/
  index : Nat
  body : Lexeme.Body
deriving DecidableEq, Repr

end RoutePattern
