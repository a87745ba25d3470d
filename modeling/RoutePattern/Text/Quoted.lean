import RoutePattern.Text
import RoutePattern.Unicode.Property

/-! # Quoted texts

A text between quotes on one line: characters that cannot be shown, and marks that would join what
stands before them, are written by number.
-/

namespace RoutePattern.Text.Quoted

/-- A number in hexadecimal digits between braces. -/
def byNumber (c : Char) : Text := "\\u".toList ++ ['{'] ++ Nat.toDigits 16 c.toNat ++ ['}']

def character (c : Char) : Text :=
  match c with
  | '\x00' => "\\0".toList
  | '\t' => "\\t".toList
  | '\r' => "\\r".toList
  | '\n' => "\\n".toList
  | '\\' => "\\\\".toList
  | '"' => "\\\"".toList
  | c => if Unicode.isGraphemeExtend c || !Unicode.isPrintable c then byNumber c else [c]

def write (t : Text) : Text := ['"'] ++ t.flatMap character ++ ['"']

end RoutePattern.Text.Quoted
