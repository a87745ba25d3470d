import RoutePattern.Router

/-! # Sites

Routers and handles that share prefixes. Each of them holds a cell, and all that hold one cell read
the same prefix. What happens to a site is a list of steps, each of which has an answer.
-/

namespace RoutePattern

/-- What holds a prefix. -/
inductive Holder where
  | handle (n : Nat)
  | router (n : Nat)
deriving DecidableEq, Repr

/-- A router and the cell of its prefix. -/
structure Mounted (M : Type) where
  cell : Nat
  router : Router M

structure Site (M : Type) where
  cells : List Prefix
  /-- The cell of each handle. -/
  handles : List Nat
  routers : List (Mounted M)

inductive Step (M : Type) where
  /-- A handle with a prefix of its own. -/
  | fresh (value : Text)
  /-- A handle that shares the prefix of another holder. -/
  | share (holder : Holder)
  | set (holder : Holder) (value : Text)
  | get (holder : Holder)
  | apply (holder : Holder) (path : Text)
  /-- An empty router that shares the prefix of a holder. -/
  | mount (holder : Holder) (options : Options)
  /-- A copy of a router, which shares its prefix but not its table. -/
  | copy (router : Nat)
  | setOptions (router : Nat) (options : Options)
  | register (router : Nat) (pattern : Text) (info : M)
  | resolve (router : Nat) (path : Text)
  | build (router : Nat) (pattern : Text) (data : Params)
  | entries (router : Nat)

inductive Answer (M : Type) where
  | handle (n : Nat)
  | router (n : Nat)
  | held (value : Prefix)
  | path (t : Text)
  | options (o : Options)
  /-- The size of the table afterwards, and why the pattern was refused if it was. -/
  | registered (size : Nat) (refused : Option SyntaxError)
  | resolved (found : Option (Resolved M))
  | built (path : Option (Except BuildError Text))
  | entries (es : List (Entry M))
  /-- The step names a holder that does not exist. -/
  | unknown

variable {M : Type}

namespace Site

def empty : Site M := ⟨[], [], []⟩

def cell? (s : Site M) : Holder → Option Nat
  | .handle n => s.handles[n]?
  | .router n => s.routers[n]?.map (·.cell)

def read? (s : Site M) (h : Holder) : Option Prefix := do s.cells[← s.cell? h]?

/-- The router with this number and the prefix it reads. -/
def mounted? (s : Site M) (n : Nat) : Option (Mounted M × Prefix) := do
  let m ← s.routers[n]?
  some (m, ← s.cells[m.cell]?)

def addCell (s : Site M) (p : Prefix) : Site M := { s with cells := s.cells ++ [p] }

def addHandle (s : Site M) (cell : Nat) : Site M × Answer M :=
  ({ s with handles := s.handles ++ [cell] }, .handle s.handles.length)

def addRouter (s : Site M) (m : Mounted M) : Site M × Answer M :=
  ({ s with routers := s.routers ++ [m] }, .router s.routers.length)

def setRouter (s : Site M) (n : Nat) (m : Mounted M) : Site M :=
  { s with routers := s.routers.set n m }

/-- The site after a step and the answer, if the holder that the step names exists. -/
def step? (s : Site M) : Step M → Option (Site M × Answer M)
  | .fresh value => some ((s.addCell ⟨value⟩).addHandle s.cells.length)
  | .share holder => do some (s.addHandle (← s.cell? holder))
  | .set holder value => do
    let s := { s with cells := s.cells.set (← s.cell? holder) ⟨value⟩ }
    some (s, .held (← s.read? holder))
  | .get holder => do some (s, .held (← s.read? holder))
  | .apply holder path => do some (s, .path ((← s.read? holder).apply path))
  | .mount holder options => do some (s.addRouter ⟨← s.cell? holder, .empty options⟩)
  | .copy n => do some (s.addRouter (← s.routers[n]?))
  | .setOptions n options => do
    let m ← s.routers[n]?
    some (s.setRouter n { m with router := m.router.withOptions options }, .options options)
  | .register n pattern info => do
    let (m, p) ← s.mounted? n
    match m.router.register p pattern info with
    | .ok router => some (s.setRouter n { m with router }, .registered router.size none)
    | .error e => some (s, .registered m.router.size (some e))
  | .resolve n path => do
    let (m, p) ← s.mounted? n
    some (s, .resolved (m.router.resolve? p path))
  | .build n pattern data => do
    let (m, p) ← s.mounted? n
    some (s, .built (m.router.build? p pattern data))
  | .entries n => do
    let m ← s.routers[n]?
    some (s, .entries m.router.entries)

/-- A step that names no holder of the site changes nothing. -/
def step (s : Site M) (t : Step M) : Site M × Answer M := (s.step? t).getD (s, .unknown)

/-- The site after all steps and the answers in order. -/
def run (s : Site M) : List (Step M) → Site M × List (Answer M)
  | [] => (s, [])
  | t :: ts =>
    let (s, answer) := s.step t
    let (s, answers) := s.run ts
    (s, answer :: answers)

end Site

end RoutePattern
