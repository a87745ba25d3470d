import RoutePattern.Expr
import RoutePattern.Text

/-! # Threads

A place divides a subject into what is read and what is ahead. A thread is one attempt to match: the
place it has come to and what its groups have captured so far.
-/

namespace RoutePattern

structure Place where
  /-- The number of characters before this place. -/
  index : Nat
  /-- The characters before this place, the nearest first. -/
  before : Text
  after : Text
deriving DecidableEq, Repr

namespace Place

def start (t : Text) : Place := ⟨0, [], t⟩

/-- The place behind the next character. -/
def next? (p : Place) : Option (Char × Place) :=
  match p.after with
  | [] => none
  | c :: rest => some (c, ⟨p.index + 1, c :: p.before, rest⟩)

/-- The place `n` characters ahead of this one in the text, if there are so many. -/
def back? (p : Place) : Nat → Option Place
  | 0 => some p
  | n + 1 =>
    match p.before with
    | [] => none
    | c :: before => back? ⟨p.index - 1, before, c :: p.after⟩ n

/-- The place behind `t`, if `t` is what comes next. -/
def pass? (p : Place) : Text → Option Place
  | [] => some p
  | c :: t =>
    match p.next? with
    | some (d, q) => if c = d then q.pass? t else none
    | none => none

/-- This place and all that follow. -/
def onward (p : Place) : List Place :=
  go p.index p.before p.after
where
  go (index : Nat) (before : Text) : Text → List Place
    | [] => [⟨index, before, []⟩]
    | c :: rest => ⟨index, before, c :: rest⟩ :: go (index + 1) (c :: before) rest

/-- The text from this place up to an index. -/
def textUpTo (p : Place) (stop : Nat) : Text := p.after.take (stop - p.index)

/-- The number of bytes before this place. -/
def byteOffset (p : Place) : Nat := Text.byteLength p.before

def isAfterWord (p : Place) : Bool := p.before.head?.any Unicode.isWord

def isBeforeWord (p : Place) : Bool := p.after.head?.any Unicode.isWord

end Place

def Anchor.holds (a : Anchor) (p : Place) : Bool :=
  match a with
  | textStart => p.before.isEmpty
  | textEnd => p.after.isEmpty
  | lineStart => p.before.isEmpty || p.before.head? == some '\n'
  | lineEnd => p.after.isEmpty || p.after.head? == some '\n'
  | wordBoundary => p.isAfterWord != p.isBeforeWord
  | notWordBoundary => p.isAfterWord == p.isBeforeWord
  | wordStart => !p.isAfterWord && p.isBeforeWord
  | wordEnd => p.isAfterWord && !p.isBeforeWord

/-- Where a group last started, and where it last ended if it did. -/
structure Capture where
  start : Place
  stop : Option Nat
deriving DecidableEq, Repr

structure Thread where
  place : Place
  captures : List (Nat × Capture)
deriving DecidableEq, Repr

namespace Thread

def index (t : Thread) : Nat := t.place.index

def ofPlace (p : Place) : Thread := ⟨p, []⟩

def capture? (t : Thread) (n : Nat) : Option Capture := t.captures.lookup n

/-- The captures without those of the groups `ns`. -/
def without (ns : List Nat) (captures : List (Nat × Capture)) : List (Nat × Capture) :=
  captures.filter fun c => !ns.contains c.1

def clear (t : Thread) (ns : List Nat) : Thread := { t with captures := without ns t.captures }

def openGroup (t : Thread) (n : Nat) : Thread :=
  { t with captures := (n, ⟨t.place, (t.capture? n).bind (·.stop)⟩) :: without [n] t.captures }

def closeGroup (t : Thread) (n : Nat) : Thread :=
  match t.capture? n with
  | some c => { t with captures := (n, ⟨c.start, some t.index⟩) :: without [n] t.captures }
  | none => t

/-- The text of a group that has started and ended. -/
def text? (t : Thread) (n : Nat) : Option Text :=
  (t.capture? n).bind fun c => c.stop.map c.start.textUpTo

/-- The thread behind the next character, if that is in `s`. -/
def step? (s : CharSet) (t : Thread) : Option Thread :=
  match t.place.next? with
  | some (c, q) => if s.has c then some { t with place := q } else none
  | none => none

end Thread

end RoutePattern
