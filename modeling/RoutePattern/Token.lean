import RoutePattern.Lexeme
import RoutePattern.Text.Decimal

/-! # Tokens

A pattern as literal texts and parameters. A parameter matches `fragment` between the texts `lead`
and `trail`, as often as its modifier says. A parameter with an empty fragment stands for a group of
literal text, which captures nothing.
-/

namespace RoutePattern

/-- What a parameter is called. A name that looks like a number is not that number. -/
inductive Name where
  | named (t : Text)
  | ordinal (n : Nat)
deriving DecidableEq, Repr

namespace Name

/-- A name as it is shown. -/
def text : Name → Text
  | named t => t
  | ordinal n => Text.Decimal.write n

/-- Whether a text refers to the name; a number refers to an ordinal however it is written. -/
def answersTo (key : Text) : Name → Bool
  | named t => t == key
  | ordinal n => Text.Decimal.read? key == some n

end Name

structure Key where
  name : Name
  lead : Text
  trail : Text
  fragment : Text
  modifier : Option Modifier
deriving DecidableEq, Repr

namespace Key

def isOptional (k : Key) : Bool := k.modifier.any (·.mayBeAbsent)

def repeats (k : Key) : Bool := k.modifier.any (·.mayRepeat)

/-- Only a parameter with a fragment captures. -/
def captures (k : Key) : Bool := !k.fragment.isEmpty

/-- What divides the parts of a repeated value. -/
def separator (k : Key) : Text := k.lead ++ k.trail

end Key

inductive Token where
  | text (t : Text)
  | param (k : Key)
deriving DecidableEq, Repr

namespace Token

def isText : Token → Bool
  | text _ => true
  | param _ => false

def key? : Token → Option Key
  | text _ => none
  | param k => some k

/-- The parameters that capture, in order. -/
def keys (ts : List Token) : List Key := ts.filterMap fun t => t.key?.filter (·.captures)

/-- There are neither parameters nor groups. -/
def arePlain (ts : List Token) : Bool := ts.all isText

end Token

end RoutePattern
