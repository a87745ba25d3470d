import RoutePattern.Matcher
import RoutePattern.Proofs.Expr.Reading

/-! # The expression that a token list is compiled to

The parts that the notation of a token list is read as, written down directly (`Token.exprs`), for
parameters without a fragment of their own.
-/

namespace RoutePattern

open RoutePattern.Expr (anchor char enclosed group look ofParts rep seq alt)

namespace Options

/-- Letters match in either case. -/
def relaxed (o : Options) : Bool := !o.sensitive

def textExprs (o : Options) (t : Text) : List Expr :=
  (o.encode.encode t).map fun c => char (.literal o.relaxed c)

/-- One of the characters of a text. -/
def classExpr (o : Options) (t : Text) : Expr := char (.relax o.relaxed (.anyOf (t.map .single)))

theorem forall_mem_textExprs {P : Expr → Prop} (each : ∀ s, P (char s)) (o : Options) (t : Text) :
    ∀ e ∈ o.textExprs t, P e := by
  intro e member
  obtain ⟨c, -, rfl⟩ := List.mem_map.1 member
  exact each _

def segmentExpr (o : Options) : Expr :=
  rep (char (Expr.Reader.segmentSet o.relaxed o.delimiter)) 1 none false

def stopExpr (o : Options) : Expr :=
  if o.endsWith.isEmpty then anchor .textEnd else alt (o.classExpr o.endsWith) (anchor .textEnd)

/-- The end of a path, a delimiter that may stand there, or nothing. -/
def wholeEndingExprs (o : Options) : List Expr :=
  (if o.strict || o.delimiter.isEmpty then []
    else [rep (o.classExpr o.delimiter) 0 (some 1) true]) ++
  [if o.endsWith.isEmpty then anchor .textEnd else look .ahead false o.stopExpr]

def partialEndingExprs (o : Options) (delimited : Bool) : List Expr :=
  (if o.strict || o.delimiter.isEmpty then []
    else [rep (enclosed (seq (o.classExpr o.delimiter) (look .ahead false o.stopExpr))) 0 (some 1)
      true]) ++
  (if delimited then []
    else [look .ahead false
      (if o.delimiter.isEmpty then o.stopExpr else alt (o.classExpr o.delimiter) o.stopExpr)])

def endingExprs (o : Options) (ts : List Token) : List Expr :=
  if o.anchoredEnd then o.wholeEndingExprs else o.partialEndingExprs (o.endsDelimited ts)

end Options

/-- An expression as often as a modifier says. -/
def Modifier.applyTo (m : Option Modifier) (e : Expr) : Expr :=
  match m with
  | none => e
  | some m => rep e m.low m.high true

namespace Key

/-- A group with a modifier but without any text. -/
def isBlank (o : Options) (k : Key) : Bool :=
  k.fragment.isEmpty && (o.textExprs k.lead ++ o.textExprs k.trail).isEmpty && k.modifier.isSome

/-- One value after another, with the texts around them in between. -/
def runExpr (o : Options) (k : Key) : Expr :=
  seq (enclosed o.segmentExpr)
    (rep (enclosed (ofParts (o.textExprs k.trail ++ o.textExprs k.lead ++
      [enclosed o.segmentExpr]))) 0 none true)

/-- The parts of a parameter without a fragment of its own, or of a group; `groups` capturing groups
stand before it. -/
def exprs (o : Options) (groups : Nat) (k : Key) : List Expr :=
  if k.fragment.isEmpty then
    if (o.textExprs k.lead ++ o.textExprs k.trail).isEmpty then []
    else [Modifier.applyTo k.modifier
      (enclosed (ofParts (o.textExprs k.lead ++ o.textExprs k.trail)))]
  else if (o.textExprs k.lead).isEmpty && (o.textExprs k.trail).isEmpty then
    if k.repeats then [group (groups + 1) (Modifier.applyTo k.modifier (enclosed o.segmentExpr))]
    else [Modifier.applyTo k.modifier (group (groups + 1) o.segmentExpr)]
  else if k.repeats then
    [Modifier.applyTo (if k.isOptional then some .optional else none)
      (enclosed (ofParts (o.textExprs k.lead ++ [group (groups + 1) (k.runExpr o)] ++
        o.textExprs k.trail)))]
  else
    [Modifier.applyTo k.modifier
      (enclosed (ofParts (o.textExprs k.lead ++ [group (groups + 1) o.segmentExpr] ++
        o.textExprs k.trail)))]

/-- The number of groups behind a parameter that `groups` stand before. -/
def groupsBehind (k : Key) (groups : Nat) : Nat := if k.captures then groups + 1 else groups

/-- The parameter has no fragment of its own: it is a group of literal text, or holds a segment. -/
def isSimple (o : Options) (k : Key) : Bool := k.fragment.isEmpty || k.fragment == o.segment

theorem fragment_eq {o : Options} {k : Key} (simple : k.isSimple o = true)
    (captures : k.captures = true) : k.fragment = o.segment := by
  have filled : k.fragment.isEmpty = false := by simpa [Key.captures] using captures
  simpa [isSimple, filled] using simple

end Key

namespace Token

def exprs (o : Options) (groups : Nat) : List Token → List Expr
  | [] => []
  | text t :: ts => o.textExprs t ++ exprs o groups ts
  | param k :: ts => k.exprs o groups ++ exprs o (k.groupsBehind groups) ts

/-- The parts of the whole expression. -/
def wholeExprs (o : Options) (ts : List Token) : List Expr :=
  (if o.anchoredStart then [anchor .textStart] else []) ++ exprs o 0 ts ++ o.endingExprs ts

/-- No group without any text has a modifier. -/
def solid (o : Options) (ts : List Token) : Bool :=
  ts.all fun t => t.key?.all fun k => !k.isBlank o

/-- No parameter has a fragment of its own. -/
def simple (o : Options) (ts : List Token) : Bool := ts.all fun t => t.key?.all (·.isSimple o)

@[simp] theorem keys_nil : keys [] = [] := rfl

@[simp] theorem keys_text (t : Text) (ts : List Token) : keys (text t :: ts) = keys ts := rfl

theorem keys_param {k : Key} (captures : k.captures = true) (ts : List Token) :
    keys (param k :: ts) = k :: keys ts := by
  simp [keys, key?, captures, Option.filter]

theorem keys_group {k : Key} (literal : k.captures = false) (ts : List Token) :
    keys (param k :: ts) = keys ts := by
  simp [keys, key?, literal, Option.filter]

theorem keys_append (ts ts' : List Token) : keys (ts ++ ts') = keys ts ++ keys ts' :=
  List.filterMap_append

/-- The number of groups behind tokens. -/
def groupsBehind (groups : Nat) (ts : List Token) : Nat :=
  ts.foldl (fun groups t => t.key?.elim groups (·.groupsBehind groups)) groups

end Token

end RoutePattern
