import RoutePattern.SyntaxError

/-! # Scanning

A pattern as lexemes. `:` begins a name, round brackets enclose a fragment, a backslash takes the
next character as it is, and `*name` is short for `:name*` where a modifier would have nothing to
apply to.
-/

namespace RoutePattern.Lexeme

def isNameChar (c : Char) : Bool := c.isAlphanum || c == '_'

/-- The name at the start of a text. -/
def leadingName (t : Text) : Text := t.takeWhile isNameChar

def behindName (t : Text) : Text := t.dropWhile isNameChar

theorem length_behindName_le (t : Text) : (behindName t).length ≤ t.length :=
  (t.dropWhile_suffix isNameChar).length_le

/-- Whether the bracket before the text opens a group that captures. -/
def opensCapture : Text → Bool
  | '?' :: '<' :: '=' :: _ | '?' :: '<' :: '!' :: _ => false
  | '?' :: '<' :: _ | '?' :: 'P' :: '<' :: _ => true
  | '?' :: _ => false
  | _ => true

/-- The text up to the bracket that closes the one at `start`, and the text behind that bracket;
`depth` brackets have been opened since. A pair of a backslash and a character holds no bracket. -/
def balanced (start : Nat) : (depth index : Nat) → Text → Except SyntaxError (Text × Text)
  | _, _, [] => .error (.unbalancedFragment start)
  | depth, index, '\\' :: rest =>
    match rest with
    | [] => .error (.unbalancedFragment start)
    | c :: rest => do
      let (inside, behind) ← balanced start depth (index + 1 + c.utf8Size) rest
      .ok ('\\' :: c :: inside, behind)
  | 0, _, ')' :: rest => .ok ([], rest)
  | depth + 1, index, ')' :: rest => do
    let (inside, behind) ← balanced start depth (index + 1) rest
    .ok (')' :: inside, behind)
  | depth, index, '(' :: rest =>
    if opensCapture rest then .error (.capturingGroup index)
    else do
      let (inside, behind) ← balanced start (depth + 1) (index + 1) rest
      .ok ('(' :: inside, behind)
  | depth, index, c :: rest => do
    let (inside, behind) ← balanced start depth (index + c.utf8Size) rest
    .ok (c :: inside, behind)

/-- The fragment whose opening bracket stands at `start`, and the text behind it. -/
def fragmentFrom (start : Nat) (t : Text) : Except SyntaxError (Text × Text) :=
  if t.head? = some '?' then .error (.fragmentStartsWithQuestion (start + 1))
  else do
    let (inside, behind) ← balanced start 0 (start + 1) t
    if inside.isEmpty then .error (.missingFragment start) else .ok (inside, behind)

theorem balanced_shape {start depth index : Nat} {t inside behind : Text}
    (closed : balanced start depth index t = .ok (inside, behind)) :
    t = inside ++ ')' :: behind := by
  fun_induction balanced start depth index t generalizing inside behind with
  | case1 | case2 | case6 => contradiction
  | case4 => simp_all
  | case3 | case5 | case7 | case8 =>
    rename_i ih
    simp only [bind, Except.bind] at closed
    split at closed
    · contradiction
    · rename_i found
      simp only [Except.ok.injEq, Prod.mk.injEq] at closed
      obtain ⟨rfl, rfl⟩ := closed
      simp [ih found]

theorem fragmentFrom_shape {start : Nat} {t inside behind : Text}
    (closed : fragmentFrom start t = .ok (inside, behind)) :
    t = inside ++ ')' :: behind := by
  unfold fragmentFrom at closed
  split at closed
  · contradiction
  · simp only [bind, Except.bind] at closed
    split at closed
    · contradiction
    · rename_i found
      split at closed
      · contradiction
      · simp only [Except.ok.injEq, Prod.mk.injEq] at closed
        obtain ⟨rfl, rfl⟩ := closed
        exact balanced_shape found

theorem fragmentFrom_length_lt {start : Nat} {t inside behind : Text}
    (closed : fragmentFrom start t = .ok (inside, behind)) : behind.length < t.length := by
  rw [fragmentFrom_shape closed]
  simp only [List.length_append, List.length_cons]
  omega

/-- The lexemes of the text at `index`. If `bound`, a modifier applies to what stands before it. -/
def scanFrom (index : Nat) (bound : Bool) : Text → Except SyntaxError (List Lexeme)
  | [] => .ok [⟨index, .finish⟩]
  | c :: rest =>
    match c with
    | '\\' =>
      match rest with
      | [] => .error (.danglingEscape index)
      | c :: rest => do
        .ok (⟨index, .escaped c⟩ :: (← scanFrom (index + 1 + c.utf8Size) false rest))
    | '{' => do .ok (⟨index, .opening⟩ :: (← scanFrom (index + 1) false rest))
    | '}' => do .ok (⟨index, .closing⟩ :: (← scanFrom (index + 1) true rest))
    | ':' =>
      let name := leadingName rest
      if name.isEmpty then .error (.missingParameterName index)
      else do
        .ok (⟨index, .name name⟩ ::
          (← scanFrom (index + 1 + name.byteLength) true (behindName rest)))
    | '(' =>
      match closed : fragmentFrom index rest with
      | .error e => .error e
      | .ok (inside, behind) => do
        .ok (⟨index, .fragment inside⟩ ::
          (← scanFrom (index + 2 + inside.byteLength) true behind))
    | c =>
      match Modifier.ofChar? c with
      | some m =>
        let name := leadingName rest
        if m = .zeroOrMore && !bound && !name.isEmpty then do
          .ok (⟨index, .name name⟩ :: ⟨index, .modifier m⟩ ::
            (← scanFrom (index + 1 + name.byteLength) false (behindName rest)))
        else do
          .ok (⟨index, .modifier m⟩ :: (← scanFrom (index + 1) false rest))
      | none => do .ok (⟨index, .char c⟩ :: (← scanFrom (index + c.utf8Size) false rest))
termination_by t => t.length
decreasing_by
  all_goals grind [length_behindName_le, → fragmentFrom_length_lt]

def scan (pattern : Text) : Except SyntaxError (List Lexeme) := scanFrom 0 false pattern

end RoutePattern.Lexeme
