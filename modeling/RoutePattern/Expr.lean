import RoutePattern.CharSet

/-! # Expressions

Regular expressions with captures, look-around, atomic groups and back-references. Sequences and
alternations lean to the right, and `enclosed` marks a part that was written between `(?:` and `)`, so
that the parts of a sequence are the parts as written.

`needsSearch` tells the expressions that only a backtracking search can match. All others are settled
by following every way through them at once.
-/

namespace RoutePattern

inductive Anchor where
  | textStart | textEnd
  | lineStart | lineEnd
  | wordBoundary | notWordBoundary | wordStart | wordEnd
deriving DecidableEq, Repr

namespace Anchor

def atWord (a : Anchor) : Bool :=
  match a with
  | wordBoundary | notWordBoundary | wordStart | wordEnd => true
  | textStart | textEnd | lineStart | lineEnd => false

end Anchor

inductive Direction where
  | ahead | behind
deriving DecidableEq, Repr

inductive Expr where
  | empty
  | char (s : CharSet)
  | anchor (a : Anchor)
  | seq (a b : Expr)
  | alt (a b : Expr)
  | enclosed (a : Expr)
  | group (n : Nat) (a : Expr)
  /-- At least `min` and, if given, at most `max` times; lazily unless `greedy`. -/
  | rep (a : Expr) (min : Nat) (max : Option Nat) (greedy : Bool)
  | look (d : Direction) (negative : Bool) (a : Expr)
  | atomic (a : Expr)
  | backref (n : Nat)
deriving DecidableEq, Repr

namespace Expr

/-- The parts of a sequence as written. -/
def parts : Expr → List Expr
  | seq a b => a :: b.parts
  | a => [a]

/-- The alternatives of an alternation as written. -/
def alternatives : Expr → List Expr
  | alt a b => a :: b.alternatives
  | a => [a]

/-- A sequence of parts; none of them is a sequence itself unless it is enclosed. -/
def ofParts : List Expr → Expr
  | [] => empty
  | [a] => a
  | a :: rest => seq a (ofParts rest)

/-- The expression without the brackets around it. -/
def bare : Expr → Expr
  | enclosed a => a.bare
  | a => a

/-- The numbers of the groups in an expression. -/
def groups : Expr → List Nat
  | group n a => n :: a.groups
  | seq a b | alt a b => a.groups ++ b.groups
  | enclosed a | rep a _ _ _ | look _ _ a | atomic a => a.groups
  | empty | char _ | anchor _ | backref _ => []

/-- Only a backtracking search matches look-around, atomic groups, word boundaries, back-references
and the groups that are `referred` to by number. -/
def needsSearch (referred : List Nat) : Expr → Bool
  | empty | char _ => false
  | anchor a => a.atWord
  | seq a b | alt a b => a.needsSearch referred || b.needsSearch referred
  | enclosed a | rep a _ _ _ => a.needsSearch referred
  | group n a => a.needsSearch referred || referred.contains n
  | look _ _ _ | atomic _ | backref _ => true

/-- The least number of characters a match takes, as far as the structure tells. -/
def minLength : Expr → Nat
  | char _ => 1
  | seq a b => a.minLength + b.minLength
  | alt a b => min a.minLength b.minLength
  | enclosed a | group _ a | atomic a => a.minLength
  | rep a lo _ _ => a.minLength * lo
  | empty | anchor _ | look _ _ _ | backref _ => 0

/-- Every match takes `minLength` characters. -/
def fixedLength : Expr → Bool
  | empty | char _ | anchor _ | look _ _ _ => true
  | seq a b => a.fixedLength && b.fixedLength
  | alt a b => a.fixedLength && b.fixedLength && a.minLength == b.minLength
  | enclosed a | group _ a | atomic a => a.fixedLength
  | rep a lo hi _ => a.fixedLength && hi == some lo
  | backref _ => false

/-- Every repetition has a range that is not empty. -/
def ordered : Expr → Bool
  | rep a lo hi _ => a.ordered && (match hi with | some hi => lo ≤ hi | none => true)
  | seq a b | alt a b => a.ordered && b.ordered
  | enclosed a | group _ a | look _ _ a | atomic a => a.ordered
  | empty | char _ | anchor _ | backref _ => true

def isAnchor : Expr → Bool
  | anchor _ => true
  | _ => false

/-- The letters that the ways of an expression begin with, if each way begins with one. One assertion
is passed over in front of a letter. -/
def initials? (passed : Bool) : Expr → Option (List Char)
  | char s => s.letter?.map ([·])
  | seq a b =>
    if a.isAnchor then if passed then none else b.initials? true
    else a.initials? passed
  | alt a b => do some ((← a.initials? passed) ++ (← b.initials? passed))
  | enclosed a => a.initials? passed
  | empty | anchor _ | group _ _ | rep _ _ _ _ | look _ _ _ | atomic _ | backref _ => none

/-- The ways of both expressions begin with letters, and no two of them with the same. -/
def startApart (a b : Expr) : Bool :=
  match a.initials? false, b.initials? false with
  | some cs, some ds => cs.all fun c => ds.all fun d => !Unicode.sameUpToCase c d
  | _, _ => false

/-- The least number of steps an expression takes when its iterations are written out one by one;
one that may be left out takes a step more, which decides that. There is a step for each byte of a
character. Alternatives may share the steps that they begin with: those that start apart share an
assertion and the bytes of one character at most. -/
def writtenSize : Expr → Nat
  | empty => 0
  | char s => s.leastSize
  | anchor _ | backref _ => 1
  | seq a b => a.writtenSize + b.writtenSize
  | alt a b =>
    let size := max a.writtenSize b.writtenSize
    if a.startApart b then max size (a.writtenSize + b.writtenSize - 5) else size
  | enclosed a | group _ a | look _ _ a | atomic a => a.writtenSize
  | rep a lo hi _ =>
    let size := max 1 a.writtenSize
    match hi with
    | some hi => lo * size + (hi - lo) * (size + 1)
    | none => max 1 lo * size + 1

/-- The steps of the program of an expression: besides those of the expression there is one that
starts, one for each end of the match, and one that reports it. Like `writtenSize` this is exact for
literal text that tells case apart, with or without anchors, and for all else a lower bound. -/
def programSize (e : Expr) : Nat := e.writtenSize + 4

/-- What ten mebibytes hold of steps that take 32 bytes. -/
def sizeLimit : Nat := 10 * 1024 * 1024 / 32

/-- The expression can be settled: its ranges of counts are not empty, and its program does not grow
beyond the limit. As `programSize` is a lower bound, no expression that fits is refused, but one with sets
of many characters may pass whose program would not fit. -/
def isSettleable (e : Expr) : Bool := e.ordered && e.programSize ≤ sizeLimit

end Expr

end RoutePattern
