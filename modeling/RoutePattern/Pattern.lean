import RoutePattern.Builder

/-! # Patterns

A pattern made ready in both directions: from paths to parameters and back.
-/

namespace RoutePattern

structure Pattern where
  text : Text
  matcher : Matcher
  builder : Builder

namespace Pattern

/-- A pattern whose matcher and builder may differ in their options. -/
def ofTokens (matching building : Options) (text : Text) (ts : List Token) :
    Except SyntaxError Pattern := do
  .ok ⟨text, ← Matcher.ofTokens matching ts, ← Builder.ofTokens building ts⟩

def ofText (o : Options) (text : Text) : Except SyntaxError Pattern := do
  ofTokens o o text (← Token.ofPattern? o text)

/-- A pattern of URL paths: captured values are percent-decoded, built values percent-encoded, and
literal text is matched as written. -/
def forUrl (o : Options) (text : Text) : Except SyntaxError Pattern := do
  ofTokens { o with encode := .identity, decode := .percent } { o with encode := .percent } text
    (← Token.ofPattern? o text)

def plain (p : Pattern) : Bool := p.matcher.plain

def keys (p : Pattern) : List Key := p.matcher.keys

def tokens (p : Pattern) : List Token := p.builder.tokens

def match? (p : Pattern) (path : Text) : Option Match := p.matcher.match? path

def accepts (p : Pattern) (path : Text) : Bool := p.matcher.accepts path

def build (p : Pattern) (data : Params) : Except BuildError Text := p.builder.build data

end Pattern

end RoutePattern
