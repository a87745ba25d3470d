import RoutePattern.Dictionary
import RoutePattern.Text.Decimal

/-! # JSON

Values and their two written forms: on one line, and over several lines, each level indented by two
blanks. The members of an object are written as they come.
-/

namespace RoutePattern

inductive Json where
  | null
  | bool (b : Bool)
  | number (n : Nat)
  | string (t : Text)
  | array (items : List Json)
  | object (members : List (Text × Json))
deriving Repr

namespace Json

/-- An object with its members in the order of their keys. -/
def ofDictionary (d : Dictionary Json) : Json := object d.entries

/-- Two hexadecimal digits. -/
def hexPair (n : Nat) : Text := Nat.toDigits 16 (n / 16) ++ Nat.toDigits 16 (n % 16)

def character (c : Char) : Text :=
  match c with
  | '"' => "\\\"".toList
  | '\\' => "\\\\".toList
  | '\n' => "\\n".toList
  | '\r' => "\\r".toList
  | '\t' => "\\t".toList
  | '\x08' => "\\b".toList
  | '\x0C' => "\\f".toList
  | c => if c.toNat < 0x20 then "\\u00".toList ++ hexPair c.toNat else [c]

def quoted (t : Text) : Text := ['"'] ++ t.flatMap character ++ ['"']

def ofBool (b : Bool) : Text := if b then "true".toList else "false".toList

mutual

def compact : Json → Text
  | null => "null".toList
  | bool b => ofBool b
  | number n => Text.Decimal.write n
  | string t => quoted t
  | array items => ['['] ++ [','].intercalate (compactItems items) ++ [']']
  | object members => ['{'] ++ [','].intercalate (compactMembers members) ++ ['}']

def compactItems : List Json → List Text
  | [] => []
  | v :: rest => v.compact :: compactItems rest

def compactMembers : List (Text × Json) → List Text
  | [] => []
  | (key, v) :: rest => (quoted key ++ [':'] ++ v.compact) :: compactMembers rest

end

/-- A line break and the indentation of a level. -/
def newline (level : Nat) : Text := '\n' :: List.replicate (2 * level) ' '

/-- Lines between brackets, one level further in; brackets alone where there are none. -/
def block (level : Nat) (opening closing : Char) (lines : List Text) : Text :=
  if lines.isEmpty then [opening, closing]
  else
    [opening] ++ newline (level + 1) ++ (',' :: newline (level + 1)).intercalate lines ++
      newline level ++ [closing]

mutual

def prettyAt (level : Nat) : Json → Text
  | null => "null".toList
  | bool b => ofBool b
  | number n => Text.Decimal.write n
  | string t => quoted t
  | array items => block level '[' ']' (prettyItems (level + 1) items)
  | object members => block level '{' '}' (prettyMembers (level + 1) members)

def prettyItems (level : Nat) : List Json → List Text
  | [] => []
  | v :: rest => v.prettyAt level :: prettyItems level rest

def prettyMembers (level : Nat) : List (Text × Json) → List Text
  | [] => []
  | (key, v) :: rest =>
    (quoted key ++ [':', ' '] ++ v.prettyAt level) :: prettyMembers level rest

end

def pretty (v : Json) : Text := v.prettyAt 0

end Json

end RoutePattern
