import RoutePattern.Lexeme.Scan
import RoutePattern.Options
import RoutePattern.Text.Escape
import RoutePattern.Token
import RoutePattern.Token.Phrase

/-! # Reading patterns

The tokens of a pattern. Characters run together into texts, except that a character right before a
parameter belongs to the parameter if it is one of the option `prefixes`. Parameters without a name
are numbered from zero.
-/

namespace RoutePattern

/-- What a parameter without a fragment of its own matches. -/
def Options.segment (o : Options) : Text := Text.Escape.runWithout o.delimiter

namespace Token

/-- The token of a text; an empty one has none. -/
def ofText (t : Text) : List Token := if t.isEmpty then [] else [.text t]

/-- The name and the fragment of a parameter, and the number that the next one without a name
gets. -/
def ofSlot (segment : Text) (ordinal : Nat) : Slot → Name × Text × Nat
  | .named n f => (.named n, f.getD segment, ordinal)
  | .unnamed f => (.ordinal ordinal, f, ordinal + 1)

/-- The tokens of phrases, behind a text that is still open, whose last character comes first. -/
def ofPhrases (o : Options) (ordinal : Nat) (pending : Text) : List Phrase → List Token
  | [] => ofText pending.reverse
  | .char c :: .param slot modifier :: rest =>
    let (name, fragment, ordinal) := ofSlot o.segment ordinal slot
    if o.prefixes.contains c then
      ofText pending.reverse ++
        param ⟨name, [c], [], fragment, modifier⟩ :: ofPhrases o ordinal [] rest
    else
      ofText (c :: pending).reverse ++
        param ⟨name, [], [], fragment, modifier⟩ :: ofPhrases o ordinal [] rest
  | .char c :: rest => ofPhrases o ordinal (c :: pending) rest
  | .escaped c :: rest => ofPhrases o ordinal (c :: pending) rest
  | .param slot modifier :: rest =>
    let (name, fragment, ordinal) := ofSlot o.segment ordinal slot
    ofText pending.reverse ++
      param ⟨name, [], [], fragment, modifier⟩ :: ofPhrases o ordinal [] rest
  | .group lead none trail modifier :: rest =>
    ofText pending.reverse ++
      param ⟨.named [], lead, trail, [], modifier⟩ :: ofPhrases o ordinal [] rest
  | .group lead (some slot) trail modifier :: rest =>
    let (name, fragment, ordinal) := ofSlot o.segment ordinal slot
    ofText pending.reverse ++
      param ⟨name, lead, trail, fragment, modifier⟩ :: ofPhrases o ordinal [] rest

def ofPattern? (o : Options) (pattern : Text) : Except SyntaxError (List Token) := do
  let phrases ← Phrase.ofLexemes (← Lexeme.scan pattern)
  .ok (ofPhrases o 0 [] phrases)

end Token

end RoutePattern
