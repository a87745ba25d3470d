import RoutePattern.Expr.Program
import RoutePattern.Params
import RoutePattern.Text.Split
import RoutePattern.Token.Reader
import RoutePattern.Token.Source

/-! # Matchers

An expression together with the keys of its groups: the text that the group number `i` captured is
the value of the `i`-th key. Groups that took no part, and empty texts, give no parameter.
-/

namespace RoutePattern

structure Match where
  /-- The part of the path that is matched. -/
  path : Text
  /-- The number of bytes before it. -/
  index : Nat
  params : Params
deriving DecidableEq, Repr

structure Matcher where
  /-- The expression, with the flag for case. -/
  source : Text
  program : Program
  keys : List Key
  /-- The pattern has neither parameters nor groups. -/
  plain : Bool
  decode : Codec

namespace Key

/-- The value of a captured text. -/
def value (k : Key) (decode : Codec) (raw : Text) : Value :=
  if k.repeats then .repeated ((Text.splitRun k.separator raw).map decode.decode)
  else .single (decode.decode raw)

end Key

/-- The program of an expression under the flag for case that the options ask for. -/
def Program.ofSource (o : Options) (source : Text) : Except SyntaxError Program :=
  match Program.ofText? (o.withCase source) with
  | some p => .ok p
  | none => .error (.invalidExpression source)

namespace Matcher

def ofSource (o : Options) (source : Text) (keys : List Key) (plain : Bool) :
    Except SyntaxError Matcher := do
  .ok ⟨o.withCase source, ← Program.ofSource o source, keys, plain, o.decode⟩

def ofTokens (o : Options) (ts : List Token) : Except SyntaxError Matcher :=
  ofSource o (Token.sourceOf o ts) (Token.keys ts) (Token.arePlain ts)

def ofPattern (o : Options) (pattern : Text) : Except SyntaxError Matcher := do
  ofTokens o (← Token.ofPattern? o pattern)

/-- The alternatives of an expression, the first one first. -/
def alternation (sources : List Text) : Text := Text.enclosed (['|'].intercalate sources)

/-- A matcher of any of several patterns. Only the pattern that matches gives parameters. -/
def ofPatterns (o : Options) (patterns : List Text) : Except SyntaxError Matcher := do
  let tokens ← patterns.mapM (Token.ofPattern? o)
  ofSource o (alternation (tokens.map (Token.sourceOf o))) (tokens.flatMap Token.keys)
    (tokens.all Token.arePlain)

/-- The name of the group behind whose opening bracket the text stands. -/
def groupName? (t : Text) : Option Text := do
  let named ← Text.dropHead? "?P<".toList t <|> Text.dropHead? "?<".toList t
  if named.head? = some '=' || named.head? = some '!' then none
  else if named.contains '>' then some (named.takeWhile (· != '>'))
  else none

def keyOf (name : Name) : Key := ⟨name, [], [], [], none⟩

/-- The keys of the groups of an expression as far as a look at its brackets tells; groups without a
name are numbered from `ordinal`. -/
def keysFrom (ordinal : Nat) (inClass : Bool) : Text → List Key
  | [] => []
  | '\\' :: _ :: rest => keysFrom ordinal inClass rest
  | '[' :: rest => keysFrom ordinal true rest
  | ']' :: rest => keysFrom ordinal false rest
  | '(' :: rest =>
    if inClass then keysFrom ordinal inClass rest
    else
      match groupName? rest with
      | some name => keyOf (.named name) :: keysFrom ordinal inClass rest
      | none =>
        if rest.head? = some '?' then keysFrom ordinal inClass rest
        else keyOf (.ordinal ordinal) :: keysFrom (ordinal + 1) inClass rest
  | _ :: rest => keysFrom ordinal inClass rest

/-- A matcher of a hand-written expression. -/
def ofExpression (o : Options) (source : Text) : Except SyntaxError Matcher :=
  ofSource o source (keysFrom 0 false source) false

/-- The parameters that a match gives to keys, whose groups are numbered from `group`. -/
def paramsFrom (decode : Codec) (found : Found) : (group : Nat) → List Key → Params → Params
  | _, [], params => params
  | group, k :: keys, params =>
    let params :=
      match found.group? group with
      | none | some [] => params
      | some raw => params.insert k.name (k.value decode raw)
    paramsFrom decode found (group + 1) keys params

def match? (m : Matcher) (path : Text) : Option Match :=
  (m.program.find? path).map fun found =>
    ⟨found.text, found.start.byteOffset, paramsFrom m.decode found 1 m.keys .empty⟩

def accepts (m : Matcher) (path : Text) : Bool := (m.match? path).isSome

end Matcher

end RoutePattern
