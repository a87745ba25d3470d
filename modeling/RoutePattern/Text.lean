/-! # Texts

A text is a list of characters. Offsets into a text are byte offsets: the number of bytes that the
characters before take in UTF-8.
-/

namespace RoutePattern

abbrev Text := List Char

namespace Text

def byteLength : Text → Nat
  | [] => 0
  | c :: rest => c.utf8Size + byteLength rest

@[simp] theorem byteLength_nil : byteLength [] = 0 := rfl

@[simp] theorem byteLength_cons (c : Char) (t : Text) :
    byteLength (c :: t) = c.utf8Size + byteLength t := rfl

@[simp] theorem byteLength_append (s t : Text) :
    byteLength (s ++ t) = byteLength s + byteLength t := by
  induction s with
  | nil => simp
  | cons c s ih => simp [ih, Nat.add_assoc]

/-- What stands behind `head` in a text that starts with it. -/
def dropHead? : (head t : Text) → Option Text
  | [], t => some t
  | _ :: _, [] => none
  | a :: head, b :: t => if a = b then dropHead? head t else none

theorem dropHead?_eq_some {head t rest : Text} :
    dropHead? head t = some rest ↔ t = head ++ rest := by
  induction head generalizing t with
  | nil => simp [dropHead?, eq_comm]
  | cons a head ih =>
    cases t with
    | nil => simp [dropHead?]
    | cons b t =>
      by_cases same : a = b
      · simp [dropHead?, same, ih]
      · simp [dropHead?, same, Ne.symm same]

end Text

end RoutePattern
