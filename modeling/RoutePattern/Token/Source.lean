import RoutePattern.Options
import RoutePattern.Text.Escape
import RoutePattern.Token

/-! # The expression of a pattern

Each parameter becomes one group that captures, in the order of the parameters, and literal text
stands for itself. Behind the last token come the delimiter that may end a path and the end of the
match.
-/

namespace RoutePattern

namespace Text

/-- A part that is repeated or left out as a whole. -/
def enclosed (t : Text) : Text := "(?:".toList ++ t ++ [')']

def captured (t : Text) : Text := ['('] ++ t ++ [')']

def ahead (t : Text) : Text := "(?=".toList ++ t ++ [')']

end Text

open Text (enclosed captured ahead)

namespace Key

/-- The expression of a parameter between two texts that are escaped already. A repeated parameter
captures the whole run, with the texts between its parts but not those around it. -/
def sourceBetween (k : Key) (lead trail : Text) : Text :=
  let modifier := k.modifier.toList.map (·.char)
  if k.fragment.isEmpty then enclosed (lead ++ trail) ++ modifier
  else if lead.isEmpty && trail.isEmpty then
    if k.repeats then captured (enclosed k.fragment ++ modifier)
    else captured k.fragment ++ modifier
  else if k.repeats then
    let run := enclosed k.fragment ++ enclosed (trail ++ lead ++ enclosed k.fragment) ++ ['*']
    enclosed (lead ++ captured run ++ trail) ++ (if k.isOptional then ['?'] else [])
  else enclosed (lead ++ captured k.fragment ++ trail) ++ modifier

end Key

namespace Options

/-- A text as it is matched. -/
def literal (o : Options) (t : Text) : Text := Text.Escape.literal (o.encode.encode t)

/-- What matches a single delimiter, if there are any. -/
def delimiterClass? (o : Options) : Option Text :=
  if o.delimiter.isEmpty then none else some (Text.Escape.classOf o.delimiter)

/-- What may follow a match. -/
def stop (o : Options) : Text :=
  if o.endsWith.isEmpty then ['$'] else Text.Escape.classOf o.endsWith ++ "|$".toList

/-- The end of an expression that matches whole paths. -/
def wholeEnding (o : Options) : Text :=
  let delimiter := if o.strict then [] else o.delimiterClass?.elim [] (· ++ ['?'])
  delimiter ++ (if o.endsWith.isEmpty then ['$'] else ahead o.stop)

/-- The end of an expression that matches the start of paths; `delimited` if its literal end is a
delimiter already. -/
def partialEnding (o : Options) (delimited : Bool) : Text :=
  let delimiter :=
    if o.strict then []
    else o.delimiterClass?.elim [] fun d => enclosed (d ++ ahead o.stop) ++ ['?']
  let boundary :=
    if delimited then [] else ahead (o.delimiterClass?.elim o.stop (· ++ ['|'] ++ o.stop))
  delimiter ++ boundary

/-- No tokens at all, or a text at the end that ends in a delimiter. -/
def endsDelimited (o : Options) (ts : List Token) : Bool :=
  match ts.getLast? with
  | none => true
  | some (.text t) => t.getLast?.any o.delimiter.contains
  | some (.param _) => false

end Options

namespace Token

def source (o : Options) : Token → Text
  | text t => o.literal t
  | param k => k.sourceBetween (o.literal k.lead) (o.literal k.trail)

/-- The expression of a pattern, without the flag for case. -/
def sourceOf (o : Options) (ts : List Token) : Text :=
  let start := if o.anchoredStart then ['^'] else []
  let ending :=
    if o.anchoredEnd then o.wholeEnding else o.partialEnding (o.endsDelimited ts)
  start ++ ts.flatMap (·.source o) ++ ending

end Token

namespace Options

/-- An expression with the flag for case that the options ask for. -/
def withCase (o : Options) (source : Text) : Text :=
  if o.sensitive then source else "(?i)".toList ++ source

end Options

end RoutePattern
