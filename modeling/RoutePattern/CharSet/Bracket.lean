import RoutePattern.CharSet

/-! # Bracketed sets

The notation `[…]`: items, ranges, nested brackets, ASCII classes, a leading `^`, and the operators
`&&`, `--` and `~~`, which bind equally and to the left. The notation is read from symbols, in which
escapes are already resolved: an escaped character is never an operator.
-/

namespace RoutePattern.CharSet.Bracket

inductive Symbol where
  /-- A character as it stands in the notation. -/
  | plain (c : Char)
  /-- A character that was escaped because it is special somewhere. -/
  | literal (c : Char)
  /-- A set that has a name of its own. -/
  | set (s : CharSet)
deriving DecidableEq, Repr

inductive Operator where
  | inter | diff | symmDiff
deriving DecidableEq, Repr

def Operator.apply : Operator → CharSet → CharSet → CharSet
  | inter => CharSet.inter
  | diff => CharSet.diff
  | symmDiff => CharSet.symmDiff

/-- A bracket that is still open. -/
structure Frame where
  negated : Bool
  /-- The left operand of the last operator. -/
  left : Option (Operator × CharSet)
  /-- The items since the last operator, or since the start. -/
  items : CharSet

namespace Frame

def add (f : Frame) (s : CharSet) : Frame := { f with items := .union f.items s }

/-- What was read, with the last operator applied. -/
def operand (f : Frame) (relaxed : Bool) : CharSet :=
  match f.left with
  | none => f.items
  | some (op, left) => op.apply (relax relaxed left) (relax relaxed f.items)

def operate (f : Frame) (relaxed : Bool) (op : Operator) : Frame :=
  { f with left := some (op, f.operand relaxed), items := .empty }

def close (f : Frame) (relaxed : Bool) : CharSet :=
  negate f.negated (relax relaxed (f.operand relaxed))

end Frame

/-- The start of a bracket behind its `[`, and the number of symbols that belong to it: a `^`, then
hyphens or else one `]`, which stand for themselves. -/
def openFrame (rest : List Symbol) : Frame × Nat :=
  let negated := rest.head? == some (.plain '^')
  let inner := if negated then rest.drop 1 else rest
  let hyphens := (inner.takeWhile (· == .plain '-')).length
  let start := if negated then 1 else 0
  if hyphens > 0 then (⟨negated, none, single '-'⟩, start + hyphens)
  else if inner.head? == some (.plain ']') then (⟨negated, none, single ']'⟩, start + 1)
  else (⟨negated, none, .empty⟩, start)

def plainChar? : Symbol → Option Char
  | .plain c => some c
  | _ => none

/-- An ASCII class behind its `[`, and the number of symbols it takes. -/
def asciiClass? (relaxed : Bool) (rest : List Symbol) : Option (CharSet × Nat) :=
  match rest with
  | .plain ':' :: rest =>
    let negated := rest.head? == some (.plain '^')
    let inner := if negated then rest.drop 1 else rest
    let name := (inner.map plainChar?).takeWhile fun c => c.isSome && c != some ':'
    match inner.drop name.length with
    | .plain ':' :: .plain ']' :: _ =>
      (ofAsciiName? (String.ofList (name.filterMap id))).map fun s =>
        (negate negated (relax relaxed s), 1 + (if negated then 1 else 0) + name.length + 2)
    | _ => none
  | _ => none

/-- The end points of a range are single characters. -/
def endPoint? : Symbol → Option Char
  | .plain c | .literal c => some c
  | .set _ => none

def itemOf : Symbol → CharSet
  | .plain c | .literal c => single c
  | .set s => s

/-- What one symbol leads to. -/
inductive Step where
  /-- Reading goes on behind `taken` further symbols. -/
  | more (taken : Nat) (top : Frame) (outer : List Frame)
  /-- The outermost bracket closed. -/
  | done (set : CharSet)

/-- One item that starts with `first`, with what follows it: a hyphen between two end points makes
a range, unless another hyphen or a `]` stands behind it. -/
def item? (first : Symbol) : List Symbol → Option (CharSet × Nat)
  | .plain '-' :: last :: _ =>
    if last == .plain ']' || last == .plain '-' then some (itemOf first, 0)
    else
      match endPoint? first, endPoint? last with
      | some a, some b => if a ≤ b then some (range a b, 2) else none
      | _, _ => none
  | _ => some (itemOf first, 0)

def step? (relaxed : Bool) (top : Frame) (outer : List Frame) (s : Symbol) (rest : List Symbol) :
    Option Step :=
  let next := rest.head?
  if s == .plain '[' then
    match asciiClass? relaxed rest with
    | some (set, taken) => some (.more taken (top.add set) outer)
    | none =>
      let (frame, taken) := openFrame rest
      some (.more taken frame (top :: outer))
  else if s == .plain ']' then
    match outer with
    | [] => some (.done (top.close relaxed))
    | parent :: outer => some (.more 0 (parent.add (top.close relaxed)) outer)
  else if s == .plain '&' && next == some s then some (.more 1 (top.operate relaxed .inter) outer)
  else if s == .plain '-' && next == some s then some (.more 1 (top.operate relaxed .diff) outer)
  else if s == .plain '~' && next == some s then
    some (.more 1 (top.operate relaxed .symmDiff) outer)
  else (item? s rest).map fun (set, taken) => .more taken (top.add set) outer

/-- Reads the rest of a bracket. The first `skip` symbols belong to what was read before. -/
def readRest (relaxed : Bool) (skip : Nat) (top : Frame) (outer : List Frame) :
    List Symbol → Option (CharSet × List Symbol)
  | [] => none
  | s :: rest =>
    match skip with
    | skip + 1 => readRest relaxed skip top outer rest
    | 0 =>
      match step? relaxed top outer s rest with
      | none => none
      | some (.more taken top outer) => readRest relaxed taken top outer rest
      | some (.done set) => some (set, rest)

/-- Reads a whole bracket, whose `[` is the first symbol and whose `]` is the last. -/
def read? (relaxed : Bool) : List Symbol → Option CharSet
  | .plain '[' :: rest =>
    let (frame, taken) := openFrame rest
    match readRest relaxed taken frame [] rest with
    | some (set, []) => some set
    | _ => none
  | _ => none

end RoutePattern.CharSet.Bracket
