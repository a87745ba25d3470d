import RoutePattern.Expr.Thread

/-! # Following every way at once

`Expr.ends` moves a list of threads through an expression. The threads are ordered by preference and
stand at different places: of two threads at one place the less preferred can never win, as what
follows depends on the place alone. So a list never outgrows the subject. An iteration that takes no
characters ends its repetition.
-/

namespace RoutePattern

/-- A set of numbers, one bit each. -/
structure Marks where
  bits : Nat
deriving DecidableEq, Repr

namespace Marks

def none : Marks := ⟨0⟩

def has (m : Marks) (i : Nat) : Bool := m.bits.testBit i

def insert (m : Marks) (i : Nat) : Marks := ⟨m.bits ||| 1 <<< i⟩

end Marks

namespace Thread

/-- The threads at a place that no earlier thread of the list stands at. -/
def distinctFrom (seen : Marks) : List Thread → List Thread
  | [] => []
  | t :: ts =>
    if seen.has t.index then distinctFrom seen ts
    else t :: distinctFrom (seen.insert t.index) ts

def distinct (ts : List Thread) : List Thread := distinctFrom .none ts

/-- The results of `f` on each thread in turn, which shares what is marked as done. -/
def gather (f : Thread → Marks → List Thread × Marks) :
    List Thread → Marks → List Thread × Marks
  | [], done => ([], done)
  | t :: ts, done =>
    let (first, done) := f t done
    let (rest, done) := gather f ts done
    (first ++ rest, done)

/-- Going on and stopping, in the order of preference. -/
def prefer (greedy : Bool) (further stop : List Thread) : List Thread :=
  if greedy then further ++ stop else stop ++ further

variable (body : Thread → List Thread) (greedy : Bool)

/-- Exactly `n` iterations. -/
def times : Nat → List Thread → List Thread
  | 0, ts => ts
  | n + 1, ts => times n (distinct (ts.flatMap body))

/-- At most `n` iterations. A thread is marked by its place and the iterations it has left, of which
there are less than `width`. -/
def upTo (width : Nat) : Nat → Thread → Marks → List Thread × Marks
  | 0, t, done => ([t], done)
  | n + 1, t, done =>
    let key := t.index * width + n
    if done.has key then ([], done)
    else
      let (further, done) := gather (upTo width n) (body t) (done.insert key)
      (prefer greedy further [t], done)

/-- Any number of iterations after one that took characters; each takes at least one. -/
def loop : (bound : Nat) → Thread → Marks → List Thread × Marks
  | 0, t, done => ([t], done)
  | bound + 1, t, done =>
    if done.has t.index then ([], done)
    else
      let further := (body t).filter fun u => t.index < u.index
      let (further, done) := gather (loop bound) further (done.insert t.index)
      (prefer greedy further [t], done)

/-- One iteration, and any number of further ones if it took characters. -/
def onceOrMore (t : Thread) (done : Marks) : List Thread × Marks :=
  gather (fun u done =>
    if u.index == t.index then ([u], done)
    else loop body greedy (u.place.after.length + 1) u done) (body t) done

def anyNumber (t : Thread) (done : Marks) : List Thread × Marks :=
  let (further, done) := onceOrMore body greedy t done
  (prefer greedy further [t], done)

/-- At least `low` and, if given, at most `high` iterations. -/
def iterate (low : Nat) (high : Option Nat) (ts : List Thread) : List Thread :=
  match high, low with
  | some high, low =>
    let n := high - low
    distinct (gather (upTo body greedy (n + 1) n) (times body low ts) .none).1
  | none, 0 => distinct (gather (anyNumber body greedy) ts .none).1
  | none, low + 1 => distinct (gather (onceOrMore body greedy) (times body low ts) .none).1

end Thread

namespace Expr

/-- The threads behind the expression, for an expression that needs no search; the others have
none. -/
def ends : Expr → List Thread → List Thread
  | empty, ts => ts
  | char s, ts => ts.filterMap (·.step? s)
  | anchor a, ts => ts.filter fun t => a.holds t.place
  | seq a b, ts => b.ends (a.ends ts)
  | alt a b, ts => Thread.distinct (ts.flatMap fun t => a.ends [t] ++ b.ends [t])
  | enclosed a, ts => a.ends ts
  | group n a, ts => (a.ends (ts.map (·.openGroup n))).map (·.closeGroup n)
  | rep a low high greedy, ts => Thread.iterate (fun t => a.ends [t]) greedy low high ts
  | look _ _ _, _ | atomic _, _ | backref _, _ => []

end Expr

end RoutePattern
