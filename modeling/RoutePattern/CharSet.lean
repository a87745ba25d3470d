import RoutePattern.Unicode.CaseFold
import RoutePattern.Unicode.Property

/-! # Sets of characters

What one position of an expression may hold. A set is kept as it was written and asked for
membership; `upToCase` adds every character that is the same as a member up to case.
-/

namespace RoutePattern

open Unicode (Property)

inductive CharSet where
  | empty
  | single (c : Char)
  | range (first last : Char)
  | property (p : Property)
  | union (a b : CharSet)
  | inter (a b : CharSet)
  | diff (a b : CharSet)
  | symmDiff (a b : CharSet)
  | compl (a : CharSet)
  | upToCase (a : CharSet)
deriving DecidableEq, Repr

namespace CharSet

def has : CharSet → Char → Bool
  | empty, _ => false
  | single d, c => c == d
  | range first last, c => first ≤ c && c ≤ last
  | property p, c => p.has c
  | union a b, c => a.has c || b.has c
  | inter a b, c => a.has c && b.has c
  | diff a b, c => a.has c && !b.has c
  | symmDiff a b, c => a.has c != b.has c
  | compl a, c => !a.has c
  | upToCase (single d), c => Unicode.sameUpToCase c d
  | upToCase a, c => (Unicode.orbit c).any a.has

/-- The number of bytes that a character of the set takes at least, as far as the structure tells. It is
exact for a single character only: a letter up to case, a range or a property takes more steps than one. -/
def leastSize : CharSet → Nat
  | single c => c.utf8Size
  | _ => 1

/-- The character of a set that is one literal character, up to case or not. -/
def letter? : CharSet → Option Char
  | single c | upToCase (single c) => some c
  | _ => none

def any : CharSet := compl empty

def notNewline : CharSet := compl (single '\n')

def digit : CharSet := property (.categories [.decimalNumber])

def space : CharSet := property .whiteSpace

def word : CharSet := property .word

/-- A literal character, up to case where `relaxed`. -/
def literal (relaxed : Bool) (c : Char) : CharSet :=
  if relaxed then upToCase (single c) else single c

def relax (relaxed : Bool) (a : CharSet) : CharSet := if relaxed then upToCase a else a

def negate (negated : Bool) (a : CharSet) : CharSet := if negated then compl a else a

def ofRanges : List (Char × Char) → CharSet
  | [] => empty
  | [(a, b)] => range a b
  | (a, b) :: rest => union (range a b) (ofRanges rest)

def hexDigit : CharSet := ofRanges [('0', '9'), ('A', 'F'), ('a', 'f')]

/-- The ASCII classes that are named between `[:` and `:]`. -/
def ofAsciiName? : String → Option CharSet
  | "alnum" => some (ofRanges [('0', '9'), ('A', 'Z'), ('a', 'z')])
  | "alpha" => some (ofRanges [('A', 'Z'), ('a', 'z')])
  | "ascii" => some (ofRanges [('\x00', '\x7F')])
  | "blank" => some (ofRanges [('\t', '\t'), (' ', ' ')])
  | "cntrl" => some (ofRanges [('\x00', '\x1F'), ('\x7F', '\x7F')])
  | "digit" => some (ofRanges [('0', '9')])
  | "graph" => some (ofRanges [('!', '~')])
  | "lower" => some (ofRanges [('a', 'z')])
  | "print" => some (ofRanges [(' ', '~')])
  | "punct" => some (ofRanges [('!', '/'), (':', '@'), ('[', '\x60'), ('{', '~')])
  | "space" => some (ofRanges [('\t', '\r'), (' ', ' ')])
  | "upper" => some (ofRanges [('A', 'Z')])
  | "word" => some (ofRanges [('0', '9'), ('A', 'Z'), ('_', '_'), ('a', 'z')])
  | "xdigit" => some hexDigit
  | _ => none

end CharSet

end RoutePattern
