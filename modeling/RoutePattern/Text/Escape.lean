import RoutePattern.Text

/-! # Escaping

Literal text inside an expression. A backslash makes a character stand for itself, both between the
parts of an expression and inside a class in square brackets.
-/

namespace RoutePattern.Text.Escape

/-- A text with a backslash before each special character. -/
def escapeBy (special : Char → Bool) (t : Text) : Text :=
  t.flatMap fun c => if special c then ['\\', c] else [c]

@[simp] theorem escapeBy_nil (special : Char → Bool) : escapeBy special [] = [] := rfl

theorem escapeBy_cons (special : Char → Bool) (c : Char) (t : Text) :
    escapeBy special (c :: t) = (if special c then ['\\', c] else [c]) ++ escapeBy special t := rfl

@[simp] theorem escapeBy_append (special : Char → Bool) (s t : Text) :
    escapeBy special (s ++ t) = escapeBy special s ++ escapeBy special t := by
  simp [escapeBy]

/-- The characters with a meaning of their own outside a class. -/
def isOperator (c : Char) : Bool :=
  ['.', '+', '*', '?', '^', '$', '(', ')', '{', '}', '[', ']', '|', '\\'].contains c

/-- The characters with a meaning of their own inside a class. -/
def isClassOperator (c : Char) : Bool :=
  ['\\', ']', '[', '^', '-', '&', '~'].contains c

/-- The expression that matches a text and nothing else. -/
def literal (t : Text) : Text := escapeBy isOperator t

/-- The characters of a text as members of a class. -/
def members (t : Text) : Text := escapeBy isClassOperator t

/-- The class of the characters of a text. -/
def classOf (t : Text) : Text := ['['] ++ members t ++ [']']

/-- One or more characters, as few as possible, none of which is in the text. -/
def runWithout (t : Text) : Text :=
  if t.isEmpty then "[\\s\\S]+?".toList else "[^".toList ++ members t ++ "]+?".toList

end RoutePattern.Text.Escape
