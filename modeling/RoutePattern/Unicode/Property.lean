import RoutePattern.Unicode.Category
import RoutePattern.Unicode.Script

/-! # Character properties

The properties of characters that expressions, names and quoted texts ask about, and the loose
matching of property names: case, spaces, hyphens, underscores and a leading `is` do not count.
-/

namespace RoutePattern.Unicode

def isWhiteSpace (c : Char) : Bool := Run.mem c.toNat whiteSpace

def isUppercase (c : Char) : Bool :=
  Category.uppercaseLetter.has c || Run.mem c.toNat otherUppercase

def isLowercase (c : Char) : Bool :=
  Category.lowercaseLetter.has c || Run.mem c.toNat otherLowercase

def isAlphabetic (c : Char) : Bool :=
  Category.letters.any (·.has c) || Category.letterNumber.has c || Run.mem c.toNat otherAlphabetic

/-- Letters, other alphabetic characters and numbers of any kind. -/
def isAlphanumeric (c : Char) : Bool :=
  isAlphabetic c || Category.decimalNumber.has c || Category.otherNumber.has c

/-- Word characters: alphabetic ones, marks, decimal digits, connectors and the two joiners. -/
def isWord (c : Char) : Bool :=
  isAlphabetic c || Category.marks.any (·.has c) || Category.decimalNumber.has c ||
    Category.connectorPunctuation.has c || c.toNat == 0x200C || c.toNat == 0x200D

def isGraphemeExtend (c : Char) : Bool :=
  Category.nonspacingMark.has c || Category.enclosingMark.has c ||
    Run.mem c.toNat otherGraphemeExtend

/-- Characters with a shape of their own, and the blank. -/
def isPrintable (c : Char) : Bool :=
  c == ' ' || !(Category.others ++ Category.separators).any (·.has c)

inductive Property where
  | any
  | ascii
  | assigned
  | alphabetic
  | uppercase
  | lowercase
  | whiteSpace
  | word
  | categories (of : List Category)
  | script (s : Script)
deriving DecidableEq, Repr

namespace Property

def has : Property → Char → Bool
  | any, _ => true
  | ascii, c => c.toNat ≤ 0x7F
  | assigned, c => !Category.unassigned.has c
  | alphabetic, c => isAlphabetic c
  | uppercase, c => isUppercase c
  | lowercase, c => isLowercase c
  | whiteSpace, c => isWhiteSpace c
  | word, c => isWord c
  | categories of, c => of.any (·.has c)
  | script s, c => s.has c

/-- A property name without what loose matching ignores. The lone `c` behind an `is` keeps it, for
`isc` abbreviates no category. -/
def loosen (name : List Char) : List Char :=
  let marked := ((name.take 2).map Char.toLower == ['i', 's'])
  let rest := if marked then name.drop 2 else name
  let kept := rest.filter fun c => c.toNat ≤ 0x7F && c != ' ' && c != '_' && c != '-'
  let loose := kept.map Char.toLower
  if marked && loose == ['c'] then ['i', 's', 'c'] else loose

/-- The categories and groups of categories by name. -/
def categoryNames : List (String × List Category) := [
  ("lu", [.uppercaseLetter]), ("uppercaseletter", [.uppercaseLetter]),
  ("ll", [.lowercaseLetter]), ("lowercaseletter", [.lowercaseLetter]),
  ("lt", [.titlecaseLetter]), ("titlecaseletter", [.titlecaseLetter]),
  ("lm", [.modifierLetter]), ("modifierletter", [.modifierLetter]),
  ("lo", [.otherLetter]), ("otherletter", [.otherLetter]),
  ("l", Category.letters), ("letter", Category.letters),
  ("lc", Category.casedLetters), ("casedletter", Category.casedLetters),
  ("mn", [.nonspacingMark]), ("nonspacingmark", [.nonspacingMark]),
  ("mc", [.spacingMark]), ("spacingmark", [.spacingMark]),
  ("me", [.enclosingMark]), ("enclosingmark", [.enclosingMark]),
  ("m", Category.marks), ("mark", Category.marks), ("combiningmark", Category.marks),
  ("nd", [.decimalNumber]), ("decimalnumber", [.decimalNumber]), ("digit", [.decimalNumber]),
  ("nl", [.letterNumber]), ("letternumber", [.letterNumber]),
  ("no", [.otherNumber]), ("othernumber", [.otherNumber]),
  ("n", Category.numbers), ("number", Category.numbers),
  ("pc", [.connectorPunctuation]), ("connectorpunctuation", [.connectorPunctuation]),
  ("pd", [.dashPunctuation]), ("dashpunctuation", [.dashPunctuation]),
  ("ps", [.openPunctuation]), ("openpunctuation", [.openPunctuation]),
  ("pe", [.closePunctuation]), ("closepunctuation", [.closePunctuation]),
  ("pi", [.initialPunctuation]), ("initialpunctuation", [.initialPunctuation]),
  ("pf", [.finalPunctuation]), ("finalpunctuation", [.finalPunctuation]),
  ("po", [.otherPunctuation]), ("otherpunctuation", [.otherPunctuation]),
  ("p", Category.punctuation), ("punctuation", Category.punctuation),
  ("punct", Category.punctuation),
  ("sm", [.mathSymbol]), ("mathsymbol", [.mathSymbol]),
  ("sc", [.currencySymbol]), ("currencysymbol", [.currencySymbol]),
  ("sk", [.modifierSymbol]), ("modifiersymbol", [.modifierSymbol]),
  ("so", [.otherSymbol]), ("othersymbol", [.otherSymbol]),
  ("s", Category.symbols), ("symbol", Category.symbols),
  ("zs", [.spaceSeparator]), ("spaceseparator", [.spaceSeparator]),
  ("zl", [.lineSeparator]), ("lineseparator", [.lineSeparator]),
  ("zp", [.paragraphSeparator]), ("paragraphseparator", [.paragraphSeparator]),
  ("z", Category.separators), ("separator", Category.separators),
  ("cc", [.control]), ("control", [.control]), ("cntrl", [.control]),
  ("cf", [.format]), ("format", [.format]),
  ("cs", [.surrogate]), ("surrogate", [.surrogate]),
  ("co", [.privateUse]), ("privateuse", [.privateUse]),
  ("cn", [.unassigned]), ("unassigned", [.unassigned]),
  ("c", Category.others), ("other", Category.others)]

/-- A general category, or a group of them, by its loosened name. -/
def ofCategoryName? (loose : List Char) : Option Property :=
  match String.ofList loose with
  | "any" => some any
  | "ascii" => some ascii
  | "assigned" => some assigned
  | name => (categoryNames.lookup name).map categories

/-- A script by its loosened name. -/
def ofScriptName? (loose : List Char) : Option Property :=
  (Script.ofName? (String.ofList loose)).map script

/-- A property by the name that stands alone between braces. -/
def ofName? (name : List Char) : Option Property :=
  let loose := loosen name
  match String.ofList loose with
  | "alphabetic" | "alpha" => some alphabetic
  | "uppercase" | "upper" => some uppercase
  | "lowercase" | "lower" => some lowercase
  | "whitespace" | "wspace" | "space" => some whiteSpace
  | _ => ofCategoryName? loose <|> ofScriptName? loose

end Property

end RoutePattern.Unicode
