import RoutePattern.Expr.Plan
import RoutePattern.Expr.Reader

/-! # Programs

An expression made ready to search texts. A search starts at each place of the text in turn, and
the first place from which there is a match wins.
-/

namespace RoutePattern

inductive Program where
  | settled (e : Expr)
  | planned (p : Plan)
deriving DecidableEq, Repr

/-- A match: where it starts and the thread that ended it. -/
structure Found where
  start : Place
  thread : Thread
deriving DecidableEq, Repr

namespace Found

def text (f : Found) : Text := f.start.textUpTo f.thread.index

def group? (f : Found) (n : Nat) : Option Text := f.thread.text? n

end Found

inductive Outcome where
  | found (f : Found)
  | nothing
  /-- The search came back too often, or too many ways waited. -/
  | gaveUp
deriving DecidableEq, Repr

def Outcome.found? : Outcome → Option Found
  | found f => some f
  | nothing | gaveUp => none

namespace Program

/-- A search may come back to other ways this often. -/
def returnLimit : Nat := 1000000

/-- So many other ways may wait at once in a search. -/
def waitingLimit : Nat := 1000000

/-- The program of an expression, unless a look-behind has parts of several lengths or a part cannot be
settled. -/
def ofNotated? (n : Expr.Notated) : Option Program :=
  if n.expr.needsSearch n.referred then
    (Plan.ofExpr? n.referred true .whole n.expr).map planned
  else if n.expr.isSettleable then some (settled n.expr)
  else none

def ofText? (t : Text) : Option Program := (Expr.read? t).bind ofNotated?

/-- Runs a plan from each place in turn, while going on to the next place waits. -/
def searchPlan (p : Plan) : List Place → (returns : Nat) → Outcome
  | [], _ => .nothing
  | place :: places, returns =>
    match p.run (.ofPlace place) Plan.accept ⟨waitingLimit - 1, returns⟩ with
    | .found t _ => .found ⟨place, t⟩
    | .exhausted => .gaveUp
    | .failed 0 => .gaveUp
    | .failed (returns + 1) => searchPlan p places returns

def searchExpr (e : Expr) : List Place → Outcome
  | [] => .nothing
  | place :: places =>
    match (e.ends [.ofPlace place]).head? with
    | some t => .found ⟨place, t⟩
    | none => searchExpr e places

def search (p : Program) (t : Text) : Outcome :=
  match p with
  | settled e => searchExpr e (Place.start t).onward
  | planned p => searchPlan p (Place.start t).onward returnLimit

def find? (p : Program) (t : Text) : Option Found := (p.search t).found?

/-- Whether a text matches; a search that gives up counts as a mismatch. -/
def accepts (p : Program) (t : Text) : Bool := (p.find? t).isSome

end Program

end RoutePattern
