import RoutePattern.Expr.Ends

/-! # Backtracking plans

A plan says how an expression that needs a search is matched. Parts that need none are settled: the
most preferred way through them is taken and no other is tried later. Every other part leaves its
remaining ways to wait. A run may come back to ways that wait only so often, and only so many of them
may wait at once.
-/

namespace RoutePattern

inductive Plan where
  | settle (e : Expr)
  | seq (a b : Plan)
  | alt (a b : Plan)
  | group (n : Nat) (a : Plan)
  /-- Iterations of a `nullable` part must take characters once the least number is reached. -/
  | rep (a : Plan) (low : Nat) (high : Option Nat) (greedy nullable : Bool)
  | ahead (negative : Bool) (a : Plan)
  /-- `a` takes `width` characters. -/
  | behind (negative : Bool) (width : Nat) (a : Plan)
  | atomic (a : Plan)
  | backref (n : Nat)
deriving DecidableEq, Repr

namespace Plan

/-- The part of a sequence that an expression is. -/
inductive Role where
  | whole
  /-- The rest of a sequence of which all before is settled. -/
  | lead
  /-- The rest of a sequence of which something before was searched. -/
  | tail
deriving DecidableEq, Repr

def settle? (e : Expr) : Option Plan := if e.isSettleable then some (settle e) else none

/-- An expression that needs no search is settled as a whole, or else, where the ways through it
must remain open, if it has only one length. -/
def settles (referred : List Nat) (searched : Bool) (role : Role) (e : Expr) : Bool :=
  !e.needsSearch referred && (!searched || (role != .whole && e.fixedLength))

mutual

/-- The plan of an expression; `searched` if its ways must remain open. A look-behind needs parts of
one length. -/
def ofExpr? (referred : List Nat) (searched : Bool) (role : Role) : Expr → Option Plan
  | .seq a b =>
    if settles referred searched role (.seq a b) then settle? (.seq a b)
    else if role != .tail && !a.needsSearch referred && a.fixedLength then do
      some (seq (← settle? a) (← ofExpr? referred searched .lead b))
    else do
      some (seq (← ofExpr? referred true .whole a) (← ofExpr? referred searched .tail b))
  | .alt a b =>
    if settles referred searched role (.alt a b) then settle? (.alt a b)
    else do
      let searched := searched || role != .whole
      some (alt (← ofExpr? referred searched .whole a) (← ofExpr? referred searched .whole b))
  | .enclosed a =>
    if settles referred searched role (.enclosed a) then settle? (.enclosed a)
    else ofExpr? referred (searched || role != .whole) .whole a
  | .group n a =>
    if settles referred searched role (.group n a) then settle? (.group n a)
    else (ofExpr? referred (searched || role != .whole) .whole a).map (group n)
  | .rep a low high greedy =>
    if settles referred searched role (.rep a low high greedy) then
      settle? (.rep a low high greedy)
    else
      let optional := low == 0 && high == some 1
      let searched := searched || role != .whole || (!optional && a.needsSearch referred)
      (ofExpr? referred searched .whole a).map fun p =>
        rep p low high greedy (high.isNone && a.minLength == 0)
  | .look .ahead negative a => (ofExpr? referred false .whole a).map (ahead negative)
  | .look .behind negative a =>
    if a.fixedLength then
      (ofExpr? referred false .whole a).map (behind negative a.minLength)
    else behindEach? referred negative a
  | .atomic a => (ofExpr? referred false .whole a).map atomic
  | .backref n => some (backref n)
  | .empty => some (settle .empty)
  | .char s => some (settle (.char s))
  | .anchor a => some (settle (.anchor a))

/-- A look-behind for each alternative. -/
def behindEach? (referred : List Nat) (negative : Bool) : Expr → Option Plan
  | .alt a b => do
    let first ←
      if a.fixedLength then
        (ofExpr? referred false .whole a).map (behind negative a.minLength)
      else none
    let rest ←
      match b with
      | .alt c d => behindEach? referred negative (.alt c d)
      | b =>
        if b.fixedLength then
          (ofExpr? referred false .whole b).map (behind negative b.minLength)
        else none
    some (if negative then seq first rest else alt first rest)
  | _ => none

end

/-! ## Running a plan -/

/-- What a run may still spend. -/
structure Budget where
  /-- Ways that may wait besides those that already do. -/
  room : Nat
  /-- Returns to ways that wait. -/
  returns : Nat
deriving DecidableEq, Repr

inductive Verdict where
  /-- A match, and the returns that are left. -/
  | found (t : Thread) (returns : Nat)
  | failed (returns : Nat)
  /-- A limit was reached. -/
  | exhausted
deriving DecidableEq, Repr

abbrev Rest := Thread → Budget → Verdict

/-- The rest of a run that ends with a match. -/
def accept : Rest := fun t left => .found t left.returns

/-- Comes back to another way after a failure. Behind it there is room for `room` ways. -/
def Verdict.orElse (v : Verdict) (room : Nat) (other : Budget → Verdict) : Verdict :=
  match v with
  | failed 0 => exhausted
  | failed (returns + 1) => other ⟨room, returns⟩
  | v => v

/-- Goes on while another way waits, if there is room for it. -/
def Budget.waiting (left : Budget) (first : Budget → Verdict) : Verdict :=
  match left.room with
  | 0 => .exhausted
  | room + 1 => first ⟨room, left.returns⟩

/-- Tries a way while another one waits, which is tried if the first fails. -/
def choose (first other : Budget → Verdict) (left : Budget) : Verdict :=
  (left.waiting first).orElse left.room other

/-- Goes on if a test fails. What follows waits while the test is made. -/
def refute (test rest : Budget → Verdict) (left : Budget) : Verdict :=
  match left.waiting test with
  | .found _ returns => .failed returns
  | v => v.orElse left.room rest

/-- Tries going on and stopping in the order of preference. -/
def either (greedy : Bool) (further stop : Budget → Verdict) (left : Budget) : Verdict :=
  if greedy then choose further stop left else choose stop further left

/-- Iterates `body`: `count` iterations are behind, and `last` is the place at which the last one
that could have been left out started. Each iteration takes a character off `bound`. -/
def iterate (body : Thread → Rest → Budget → Verdict) (low : Nat) (high : Option Nat)
    (greedy nullable : Bool) (rest : Rest) :
    (bound : Text) → (count last : Nat) → Thread → Budget → Verdict
  | [], _, _, _, left => .failed left.returns
  | _ :: bound, count, last, t, left =>
    if high == some count then rest t left
    else if nullable && low < count && last == t.index then .failed left.returns
    else
      let last := if low ≤ count then t.index else last
      let further := body t (iterate body low high greedy nullable rest bound (count + 1) last)
      if low ≤ count then either greedy further (rest t) left else further left

/-- The first way through the plan that `rest` accepts. -/
def run : Plan → Thread → Rest → Budget → Verdict
  | settle e, t, rest, left =>
    match (e.ends [t.clear e.groups]).head? with
    | some u => rest u left
    | none => .failed left.returns
  | seq a b, t, rest, left => a.run t (fun u left => b.run u rest left) left
  | alt a b, t, rest, left => choose (a.run t rest) (b.run t rest) left
  | group n a, t, rest, left =>
    a.run (t.openGroup n) (fun u left => rest (u.closeGroup n) left) left
  | rep a low high greedy nullable, t, rest, left =>
    -- The bound is a text, so that nothing has to count the characters ahead.
    let bound := List.replicate (low + high.getD 0 + 2) ' ' ++ t.place.after
    iterate a.run low high greedy nullable rest bound 0 0 t left
  | ahead false a, t, rest, left =>
    a.run t (fun u left => rest { u with place := t.place } left) left
  | ahead true a, t, rest, left => refute (a.run t accept) (rest t) left
  | behind false width a, t, rest, left =>
    match t.place.back? width with
    | some p =>
      a.run { t with place := p } (fun u left => rest { u with place := t.place } left) left
    | none => .failed left.returns
  | behind true width a, t, rest, left =>
    let test (left : Budget) : Verdict :=
      match t.place.back? width with
      | some p => a.run { t with place := p } accept left
      | none => .failed left.returns
    refute test (rest t) left
  | atomic a, t, rest, left =>
    -- The ways through the part wait no longer once it has matched.
    match a.run t accept left with
    | .found u returns => rest u { left with returns }
    | v => v
  | backref n, t, rest, left =>
    match (t.text? n).bind t.place.pass? with
    | some p => rest { t with place := p } left
    | none => .failed left.returns

end Plan

end RoutePattern
