import RoutePattern.Unicode.Letter
import RoutePattern.Unicode.Mark
import RoutePattern.Unicode.Number
import RoutePattern.Unicode.Punctuation
import RoutePattern.Unicode.Symbol
import RoutePattern.Unicode.Separator

/-! # General categories

Every code point has exactly one general category. `unassigned` is what no table holds.
-/

namespace RoutePattern.Unicode

inductive Category where
  | uppercaseLetter | lowercaseLetter | titlecaseLetter | modifierLetter | otherLetter
  | nonspacingMark | spacingMark | enclosingMark
  | decimalNumber | letterNumber | otherNumber
  | connectorPunctuation | dashPunctuation | openPunctuation | closePunctuation
  | initialPunctuation | finalPunctuation | otherPunctuation
  | mathSymbol | currencySymbol | modifierSymbol | otherSymbol
  | spaceSeparator | lineSeparator | paragraphSeparator
  | control | format | surrogate | privateUse | unassigned
deriving DecidableEq, Repr

namespace Category

def letters : List Category :=
  [uppercaseLetter, lowercaseLetter, titlecaseLetter, modifierLetter, otherLetter]

def casedLetters : List Category := [uppercaseLetter, lowercaseLetter, titlecaseLetter]

def marks : List Category := [nonspacingMark, spacingMark, enclosingMark]

def numbers : List Category := [decimalNumber, letterNumber, otherNumber]

def punctuation : List Category :=
  [connectorPunctuation, dashPunctuation, openPunctuation, closePunctuation,
    initialPunctuation, finalPunctuation, otherPunctuation]

def symbols : List Category := [mathSymbol, currencySymbol, modifierSymbol, otherSymbol]

def separators : List Category := [spaceSeparator, lineSeparator, paragraphSeparator]

def others : List Category := [control, format, surrogate, privateUse, unassigned]

/-- The code points of a category. Surrogates are no characters, and `unassigned` is a
complement, so neither has runs here. -/
def runs : Category → List Run
  | uppercaseLetter => Unicode.uppercaseLetter
  | lowercaseLetter => Unicode.lowercaseLetter
  | titlecaseLetter => Unicode.titlecaseLetter
  | modifierLetter => Unicode.modifierLetter
  | otherLetter => Unicode.otherLetter
  | nonspacingMark => Unicode.nonspacingMark
  | spacingMark => Unicode.spacingMark
  | enclosingMark => Unicode.enclosingMark
  | decimalNumber => Unicode.decimalNumber
  | letterNumber => Unicode.letterNumber
  | otherNumber => Unicode.otherNumber
  | connectorPunctuation => Unicode.connectorPunctuation
  | dashPunctuation => Unicode.dashPunctuation
  | openPunctuation => Unicode.openPunctuation
  | closePunctuation => Unicode.closePunctuation
  | initialPunctuation => Unicode.initialPunctuation
  | finalPunctuation => Unicode.finalPunctuation
  | otherPunctuation => Unicode.otherPunctuation
  | mathSymbol => Unicode.mathSymbol
  | currencySymbol => Unicode.currencySymbol
  | modifierSymbol => Unicode.modifierSymbol
  | otherSymbol => Unicode.otherSymbol
  | spaceSeparator => Unicode.spaceSeparator
  | lineSeparator => Unicode.lineSeparator
  | paragraphSeparator => Unicode.paragraphSeparator
  | control => Unicode.control
  | format => Unicode.format
  | privateUse => Unicode.privateUse
  | surrogate | unassigned => []

/-- The categories that a table lists. -/
def listed : List Category :=
  letters ++ marks ++ numbers ++ punctuation ++ symbols ++ separators ++
    [control, format, privateUse]

def has (k : Category) (c : Char) : Bool :=
  match k with
  | unassigned => !listed.any fun l => Run.mem c.toNat l.runs
  | k => Run.mem c.toNat k.runs

end Category

end RoutePattern.Unicode
