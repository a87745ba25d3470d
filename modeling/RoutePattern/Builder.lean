import RoutePattern.Matcher

/-! # Builders

Paths from parameters. Each value is encoded and, if the options say so, checked against the fragment
of its parameter.
-/

namespace RoutePattern

inductive BuildError where
  /-- A list for a parameter that does not repeat. -/
  | unexpectedRepeat (name : Text)
  /-- An empty list for a parameter that must occur. -/
  | emptyRepeat (name : Text)
  | invalidSegment (name fragment segment : Text)
  | missing (name : Text) (repeats : Bool)
deriving DecidableEq, Repr

namespace BuildError

def message : BuildError → String
  | unexpectedRepeat name =>
    let name := String.ofList name
    s!"expected \"{name}\" to not repeat, but got an array"
  | emptyRepeat name =>
    let name := String.ofList name
    s!"expected \"{name}\" to not be empty"
  | invalidSegment name fragment segment =>
    let name := String.ofList name
    let fragment := String.ofList fragment
    let segment := String.ofList segment
    s!"expected \"{name}\" to match \"{fragment}\", but got \"{segment}\""
  | missing name repeats =>
    let name := String.ofList name
    let expected := if repeats then "an array" else "a string"
    s!"expected \"{name}\" to be {expected}"

end BuildError

namespace Key

/-- The expression of the values of a parameter. -/
def validatorSource (k : Key) : Text := '^' :: Text.enclosed k.fragment ++ ['$']

end Key

structure Builder where
  /-- The tokens, each parameter with the program that its values are checked by. -/
  parts : List (Token × Option Program)
  encode : Codec
  validate : Bool

namespace Builder

def partOf (o : Options) (t : Token) : Except SyntaxError (Token × Option Program) :=
  match t with
  | .text _ => .ok (t, none)
  | .param k => do .ok (t, some (← Program.ofSource o k.validatorSource))

def ofTokens (o : Options) (ts : List Token) : Except SyntaxError Builder := do
  .ok ⟨← ts.mapM (partOf o), o.encode, o.validate⟩

def ofPattern (o : Options) (pattern : Text) : Except SyntaxError Builder := do
  ofTokens o (← Token.ofPattern? o pattern)

def tokens (b : Builder) : List Token := b.parts.map (·.1)

/-- An encoded value, if it passes the check. -/
def segment (b : Builder) (k : Key) (validator : Option Program) (value : Text) :
    Except BuildError Text :=
  let encoded := b.encode.encode value
  if b.validate && !validator.all (·.accepts encoded) then
    .error (.invalidSegment k.name.text k.fragment encoded)
  else .ok encoded

/-- A value between the texts around it. -/
def piece (b : Builder) (k : Key) (validator : Option Program) (value : Text) :
    Except BuildError Text := do
  .ok (k.lead ++ (← b.segment k validator value) ++ k.trail)

/-- What a parameter adds to the path. -/
def param (b : Builder) (k : Key) (validator : Option Program) :
    Option Value → Except BuildError Text
  | some (.repeated []) =>
    if !k.repeats then .error (.unexpectedRepeat k.name.text)
    else if k.isOptional then .ok []
    else .error (.emptyRepeat k.name.text)
  | some (.repeated values) => do
    if !k.repeats then .error (.unexpectedRepeat k.name.text)
    else .ok (← values.mapM (b.piece k validator)).flatten
  | some (.single value) => b.piece k validator value
  | none => if k.isOptional then .ok [] else .error (.missing k.name.text k.repeats)

/-- What a part adds to the path. An optional group of literal text is left out. -/
def part (b : Builder) (data : Params) : Token × Option Program → Except BuildError Text
  | (.text t, _) => .ok t
  | (.param k, validator) =>
    if k.captures then b.param k validator (data.get? k.name.text)
    else .ok (if k.isOptional then [] else k.lead ++ k.trail)

def build (b : Builder) (data : Params) : Except BuildError Text := do
  .ok (← b.parts.mapM (b.part data)).flatten

end Builder

end RoutePattern
