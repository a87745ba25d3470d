import RoutePattern.CharSet.Bracket
import RoutePattern.Expr
import RoutePattern.Text.Decimal

/-! # Reading expressions

The notation of expressions. Reading answers the expression together with the groups that are
referred to by number, or nothing where the notation is broken. The functions that need it take a
bound on the characters to read as their first argument; every step takes at least one.

Conditions `(?(…)…|…)`, the mark `\K`, references relative to a place such as `\k<-1>`, and properties
that `Unicode.Property` does not have are not read: a notation with one of them counts as broken.
-/

namespace RoutePattern.Expr.Reader

open CharSet (Bracket.Symbol)

/-- What `(?imsUx)` turns on. -/
structure Flags where
  relaxed : Bool := false
  lines : Bool := false
  dotAll : Bool := false
  lazyFirst : Bool := false
  spaced : Bool := false
deriving DecidableEq, Repr

/-- What the text before the current place has settled. -/
structure Context where
  /-- Bytes of the whole notation. -/
  size : Nat
  flags : Flags := {}
  /-- Groups opened so far. -/
  groups : Nat := 0
  /-- Names of groups, the latest first. -/
  names : List (Text × Nat) := []
  /-- Groups referred to by number. -/
  referred : List Nat := []

/-- Groups may nest less deep than this. -/
def nestingLimit : Nat := 64

inductive Blank where
  | outside | comment | line

def isBlank (c : Char) : Bool := c == ' ' || c == '\r' || c == '\n' || c == '\t'

/-- Skips comments `(?#…)` and, where blanks do not count, blanks and the rest of a line behind
`#`. A comment must be closed. -/
def skipBlank (spaced : Bool) : Blank → Text → Option Text
  | .outside, '(' :: '?' :: '#' :: rest => skipBlank spaced .comment rest
  | .outside, c :: rest =>
    if spaced && isBlank c then skipBlank spaced .outside rest
    else if spaced && c == '#' then skipBlank spaced .line rest
    else some (c :: rest)
  | .comment, ')' :: rest => skipBlank spaced .outside rest
  | .comment, '\\' :: _ :: rest => skipBlank spaced .comment rest
  | .comment, _ :: rest => skipBlank spaced .comment rest
  | .line, '\n' :: rest => skipBlank spaced .outside rest
  | .line, _ :: rest => skipBlank spaced .line rest
  | .comment, [] => none
  | .outside, [] | .line, [] => some []

def skip (flags : Flags) (t : Text) : Option Text := skipBlank flags.spaced .outside t

/-! ## Escapes -/

inductive Escape where
  | literal (c : Char)
  | set (s : CharSet)
  | anchor (a : Anchor)
  | number (n : Nat)
  | name (n : Nat)

def isHexDigit (c : Char) : Bool :=
  Text.Decimal.isDigit c || ('a' ≤ c && c ≤ 'f') || ('A' ≤ c && c ≤ 'F')

def hexValue (digits : Text) : Nat :=
  digits.foldl (fun n c =>
    16 * n + (if Text.Decimal.isDigit c then c.toNat - 48 else c.toLower.toNat - 87)) 0

def scalar? (n : Nat) : Option Char := if n.isValidChar then some (Char.ofNat n) else none

/-- A character by its code: `digits` hexadecimal digits, or up to eight between braces. -/
def readHex (digits : Nat) (t : Text) : Option (Escape × Text) :=
  let plain := t.take digits
  if plain.length == digits && plain.all isHexDigit then
    (scalar? (hexValue plain)).map fun c => (.literal c, t.drop digits)
  else
    match t with
    | '{' :: t =>
      let code := t.takeWhile isHexDigit
      match t.dropWhile isHexDigit with
      | '}' :: rest =>
        if code.isEmpty || code.length > 8 then none
        else (scalar? (hexValue code)).map fun c => (.literal c, rest)
      | _ => none
    | _ => none

def isNameChar (c : Char) : Bool := Unicode.isAlphanumeric c || c == '_'

/-- A name up to `close`. -/
def readName (close : Char) (t : Text) : Option (Text × Text) :=
  let name := t.takeWhile isNameChar
  match t.dropWhile isNameChar with
  | c :: rest => if c == close && !name.isEmpty then some (name, rest) else none
  | [] => none

/-- A reference to a group that has been opened, by its latest name or else by its number. -/
def referenceOf? (ctx : Context) (name : Text) : Option Nat :=
  let n := match ctx.names.lookup name with
    | some n => some n
    | none => Text.Decimal.readDigits? name
  n.filter fun n => 1 ≤ n && n ≤ ctx.groups

def propertySet (kind : Char) (relaxed : Bool) (p : Unicode.Property) (negated : Bool) : CharSet :=
  CharSet.negate ((kind == 'P') != negated) (CharSet.relax relaxed (.property p))

/-- What stands between the braces of `\p`: the name of a property, or one of its values behind
`=`, `:` or `!=`. -/
def readPropertyName (kind : Char) (relaxed : Bool) (name : Text) : Option CharSet :=
  let split (at? : Char → Bool) := (name.takeWhile (!at? ·), (name.dropWhile (!at? ·)).drop 1)
  let valued (negated : Bool) (key value : Text) :=
    let value := Unicode.Property.loosen value
    let p := match String.ofList (Unicode.Property.loosen key) with
      | "generalcategory" | "gc" => Unicode.Property.ofCategoryName? value
      | "script" | "sc" => Unicode.Property.ofScriptName? value
      | _ => none
    p.map (propertySet kind relaxed · negated)
  let (before, behind) := split (· == '=')
  if before.getLast? == some '!' && before.length < name.length then
    valued true before.dropLast behind
  else if name.contains ':' then
    let (key, value) := split (· == ':')
    valued false key value
  else if name.contains '=' then valued false before behind
  else (Unicode.Property.ofName? name).map (propertySet kind relaxed · false)

def readProperty (kind : Char) (relaxed : Bool) : Text → Option (Escape × Text)
  | '{' :: t =>
    match t.dropWhile (· != '}') with
    | '}' :: rest =>
      (readPropertyName kind relaxed (t.takeWhile (· != '}'))).map fun s => (.set s, rest)
    | _ => none
  | c :: rest => (readPropertyName kind relaxed [c]).map fun s => (.set s, rest)
  | [] => none

def isAsciiLetter (c : Char) : Bool := ('a' ≤ c && c ≤ 'z') || ('A' ≤ c && c ≤ 'Z')

/-- The control characters that have a letter. -/
def control? : Char → Option Char
  | 'a' => some '\x07'
  | 'b' => some '\x08'
  | 'f' => some '\x0C'
  | 'n' => some '\n'
  | 'r' => some '\r'
  | 't' => some '\t'
  | 'v' => some '\x0B'
  | 'e' => some '\x1B'
  | _ => none

def anchor? : Char → Option Anchor
  | 'A' | 'G' => some .textStart
  | 'z' => some .textEnd
  | 'b' => some .wordBoundary
  | 'B' => some .notWordBoundary
  | '<' => some .wordStart
  | '>' => some .wordEnd
  | _ => none

/-- The escapes that mean the same inside and outside of brackets. -/
def readCommonEscape (relaxed : Bool) (c : Char) (rest : Text) : Option (Escape × Text) :=
  match c with
  | 'd' => some (.set .digit, rest)
  | 'D' => some (.set (.compl .digit), rest)
  | 's' => some (.set .space, rest)
  | 'S' => some (.set (.compl .space), rest)
  | 'w' => some (.set .word, rest)
  | 'W' => some (.set (.compl .word), rest)
  | 'h' => some (.set .hexDigit, rest)
  | 'H' => some (.set (.compl .hexDigit), rest)
  | 'x' => readHex 2 rest
  | 'u' => readHex 4 rest
  | 'U' => readHex 8 rest
  | 'p' | 'P' => readProperty c relaxed rest
  | _ =>
    match control? c with
    | some d => some (.literal d, rest)
    | none => if isAsciiLetter c then none else some (.literal c, rest)

/-- An escape outside of brackets, behind its backslash. -/
def readEscape (ctx : Context) : Text → Option (Escape × Text)
  | [] => none
  | c :: rest =>
    if Text.Decimal.isDigit c then
      let digits := (c :: rest).takeWhile Text.Decimal.isDigit
      match Text.Decimal.readDigits? digits with
      | some n =>
        if n < ctx.size / 2 && 1 ≤ n && n ≤ ctx.groups then
          some (.number n, (c :: rest).drop digits.length)
        else none
      | none => none
    else
      match c, anchor? c, rest with
      | 'k', _, '\'' :: t =>
        (readName '\'' t).bind fun (name, rest) =>
          (referenceOf? ctx name).map fun n => (.name n, rest)
      | 'k', _, '<' :: t =>
        (readName '>' t).bind fun (name, rest) =>
          (referenceOf? ctx name).map fun n => (.name n, rest)
      | 'k', _, _ => none
      | 'b', _, '{' :: _ => none
      | _, some a, _ => some (.anchor a, rest)
      | _, none, _ => readCommonEscape ctx.flags.relaxed c rest

/-! ## Brackets -/

/-- The characters that are escaped where they must stand for themselves. -/
def isSpecial (c : Char) : Bool :=
  ['\\', '.', '+', '*', '?', '(', ')', '|', '[', ']', '{', '}', '^', '$', '#', '&', '-',
    '~'].contains c

/-- An escape inside of brackets, behind its backslash. Letters that name an anchor or a reference
elsewhere stand for themselves here. -/
def readBracketEscape (ctx : Context) : Text → Option (Bracket.Symbol × Text)
  | [] => none
  | c :: rest =>
    if Text.Decimal.isDigit c then none
    else if ['k', 'A', 'z', 'B', 'K', 'G'].contains c then some (.plain c, rest)
    else
      match readCommonEscape ctx.flags.relaxed c rest with
      | some (.literal d, rest) => some (if isSpecial d then .literal d else .plain d, rest)
      | some (.set s, rest) => some (.set s, rest)
      | _ => none

/-- The symbols up to the bracket that closes `depth` open ones. -/
def readSymbols (ctx : Context) : Nat → (depth : Nat) → Text → Option (List Bracket.Symbol × Text)
  | 0, _, _ => none
  | _ + 1, _, [] => none
  | bound + 1, depth, c :: rest =>
    if c == '\\' then
      match readBracketEscape ctx rest with
      | some (s, rest) =>
        (readSymbols ctx bound depth rest).map fun (more, rest) => (s :: more, rest)
      | none => none
    else if c == ']' && depth ≤ 1 then some ([.plain c], rest)
    else
      let depth := if c == '[' then depth + 1 else if c == ']' then depth - 1 else depth
      (readSymbols ctx bound depth rest).map fun (more, rest) => (.plain c :: more, rest)

/-- A bracketed set behind its `[`. A `]` that comes first does not close it. -/
def readBracket (ctx : Context) (t : Text) : Option (CharSet × Text) :=
  let caret := if t.head? == some '^' then ['^'] else []
  let inner := t.drop caret.length
  let bracket := if inner.head? == some ']' then [']'] else []
  let head := '[' :: (caret ++ bracket)
  match readSymbols ctx (t.length + 1) 1 (inner.drop bracket.length) with
  | some (symbols, rest) =>
    (CharSet.Bracket.read? ctx.flags.relaxed (head.map .plain ++ symbols)).map fun s => (s, rest)
  | none => none

/-! ## Repetition -/

structure Repetition where
  min : Nat
  max : Option Nat
  greedy : Bool
  /-- Nothing of what was repeated is given back. -/
  possessive : Bool

def readNumber (t : Text) : Option (Nat × Text) :=
  (Text.Decimal.readDigits? (t.takeWhile Text.Decimal.isDigit)).map fun n =>
    (n, t.dropWhile Text.Decimal.isDigit)

/-- A range of counts behind its `{`. -/
def readCounts (flags : Flags) (t : Text) : Option (Nat × Option Nat × Text) := do
  let t ← skip flags t
  let (low, t) ← if t.head? == some ',' then some (0, t) else readNumber t
  let t ← skip flags t
  match t with
  | '}' :: rest => some (low, some low, rest)
  | ',' :: t =>
    let t ← skip flags t
    let (high, t) := match readNumber t with
      | some (high, t) => (some high, t)
      | none => (none, t)
    match ← skip flags t with
    | '}' :: rest => some (low, high, rest)
    | _ => none
  | _ => none

/-- The counts that follow an atom. -/
def readRange (flags : Flags) : Text → Option (Nat × Option Nat × Text)
  | '?' :: rest => some (0, some 1, rest)
  | '*' :: rest => some (0, none, rest)
  | '+' :: rest => some (1, none, rest)
  | '{' :: rest => readCounts flags rest
  | _ => none

/-- The repetition that follows an atom, if one does; a `{` that starts no counts is none. -/
def readRepetition (flags : Flags) (t : Text) : Option (Option Repetition × Text) := do
  let t ← skip flags t
  match readRange flags t with
  | none => some (none, t)
  | some (low, high, t) =>
    let t ← skip flags t
    let (marked, t) := match t with
      | '?' :: rest => (true, rest)
      | t => (false, t)
    let (possessive, t) := match t with
      | '+' :: rest => (true, rest)
      | t => (false, t)
    some (some ⟨low, high, marked == flags.lazyFirst, possessive⟩, t)

/-- Nothing, a look-around or an anchor cannot be repeated. -/
def repeatable (e : Expr) : Bool :=
  match e.bare with
  | empty | look _ _ _ | anchor _ => false
  | _ => true

def applyRepetition (e : Expr) : Option Repetition → Option Expr
  | none => some e
  | some r =>
    if repeatable e then
      let repeated := rep e r.min r.max r.greedy
      some (if r.possessive then atomic repeated else repeated)
    else none

/-! ## Groups -/

inductive GroupHead where
  | capture (name : Option Text)
  | look (d : Direction) (negative : Bool)
  | atomic
  /-- The flags count up to the end of the group. -/
  | scoped (flags : Flags)
  /-- The flags count from here on. -/
  | setting (flags : Flags)
  | reference (n : Nat)

def Flags.set? (flags : Flags) (value : Bool) : Char → Option Flags
  | 'i' => some { flags with relaxed := value }
  | 'm' => some { flags with lines := value }
  | 's' => some { flags with dotAll := value }
  | 'U' => some { flags with lazyFirst := value }
  | 'x' => some { flags with spaced := value }
  | 'u' => if value then some flags else none
  | _ => none

/-- Flags up to `)` or `:`; those behind `-` are turned off. `last` is the character before. -/
def readFlags : Nat → Flags → (off : Bool) → (last : Option Char) → Text →
    Option (GroupHead × Text)
  | 0, _, _, _, _ => none
  | bound + 1, flags, off, last, t =>
    match skip flags t with
    | none => none
    | some rest =>
      let last := if rest.length == t.length then last else some ' '
      match rest with
      | [] => none
      | ')' :: rest => if last == none || (off && last == some '-') then none
        else some (.setting flags, rest)
      | ':' :: rest => if off && last == some '-' then none else some (.scoped flags, rest)
      | '-' :: rest => if off then none else readFlags bound flags true (some '-') rest
      | c :: rest =>
        match flags.set? (!off) c with
        | some flags => readFlags bound flags off (some c) rest
        | none => none

/-- What kind of group starts behind a `(`. -/
def readGroupHead (ctx : Context) : Text → Option (GroupHead × Text)
  | '?' :: '=' :: rest => some (.look .ahead false, rest)
  | '?' :: '!' :: rest => some (.look .ahead true, rest)
  | '?' :: '<' :: '=' :: rest => some (.look .behind false, rest)
  | '?' :: '<' :: '!' :: rest => some (.look .behind true, rest)
  | '?' :: '<' :: rest => (readName '>' rest).map fun (name, rest) => (.capture (some name), rest)
  | '?' :: 'P' :: '<' :: rest =>
    (readName '>' rest).map fun (name, rest) => (.capture (some name), rest)
  | '?' :: 'P' :: '=' :: rest =>
    (readName ')' rest).bind fun (name, rest) =>
      (referenceOf? ctx name).map fun n => (.reference n, rest)
  | '?' :: '>' :: rest => some (.atomic, rest)
  | '?' :: rest => readFlags (rest.length + 1) ctx.flags false none rest
  | rest => some (.capture none, rest)

/-- The context inside of a group. -/
def enter (ctx : Context) : GroupHead → Context
  | .capture none => { ctx with groups := ctx.groups + 1 }
  | .capture (some name) =>
    { ctx with groups := ctx.groups + 1, names := (name, ctx.groups + 1) :: ctx.names }
  | .scoped flags => { ctx with flags }
  | .look _ _ | .atomic | .setting _ | .reference _ => ctx

/-- The context behind a group that was entered from `outer`. -/
def leave (outer inner : Context) : GroupHead → Context
  | .scoped _ => { inner with flags := outer.flags }
  | _ => inner

/-- The expression of a group that was entered from `outer` and holds `e`. -/
def wrap (outer : Context) (e : Expr) : GroupHead → Expr
  | .capture _ => group (outer.groups + 1) e
  | .look d negative => look d negative e.bare
  | .atomic => atomic e
  | .scoped _ => if e == empty then empty else enclosed e
  | .setting _ | .reference _ => e

/-! ## Alternatives, sequences and atoms -/

/-- An atom that is no group: a character, a set, an anchor or a reference. -/
def readAtom (ctx : Context) : Text → Option (Expr × Context × Text)
  | '.' :: rest => some (char (if ctx.flags.dotAll then .any else .notNewline), ctx, rest)
  | '^' :: rest => some (anchor (if ctx.flags.lines then .lineStart else .textStart), ctx, rest)
  | '$' :: rest => some (anchor (if ctx.flags.lines then .lineEnd else .textEnd), ctx, rest)
  | '[' :: rest => (readBracket ctx rest).map fun (s, rest) => (char s, ctx, rest)
  | '\\' :: rest =>
    match readEscape ctx rest with
    | some (.literal c, rest) => some (char (.literal ctx.flags.relaxed c), ctx, rest)
    | some (.set s, rest) => some (char s, ctx, rest)
    | some (.anchor a, rest) => some (anchor a, ctx, rest)
    | some (.number n, rest) =>
      some (backref n, { ctx with referred := n :: ctx.referred }, rest)
    | some (.name n, rest) => some (backref n, ctx, rest)
    | none => none
  | c :: rest => some (char (.literal ctx.flags.relaxed c), ctx, rest)
  | [] => none

/-- Adds a part, which comes last, to the parts read before. -/
def addPart (e : Expr) (parts : List Expr) : List Expr := if e == empty then parts else e :: parts

/-- The alternation of the alternatives read before, latest first, and a last one. -/
def alternation (earlier : List Expr) (last : Expr) : Expr := earlier.foldl (fun e a => alt a e) last

/-- Groups are named or referred to by number, not both; alternatives are not asked. -/
def mixesReferences (ctx : Context) (earlier : List Expr) : Bool :=
  earlier.isEmpty && !ctx.referred.isEmpty && !ctx.names.isEmpty

/-- Reads up to the end or to a `)` that closes nothing here. `parts` are the parts of the current
sequence and `earlier` the alternatives before it, both latest first. -/
def readBody : Nat → Context → (depth : Nat) → (parts earlier : List Expr) → Text →
    Option (Expr × Context × Text)
  | 0, _, _, _, _, _ => none
  | bound + 1, ctx, depth, parts, earlier, t =>
    match skip ctx.flags t with
    | none => none
    | some rest =>
      match rest with
      | [] | ')' :: _ =>
        if mixesReferences ctx earlier then none
        else some (alternation earlier (ofParts parts.reverse), ctx, rest)
      | '|' :: rest => readBody bound ctx depth [] (ofParts parts.reverse :: earlier) rest
      | '?' :: _ | '*' :: _ | '+' :: _ => none
      | '(' :: rest =>
        if depth + 1 ≥ nestingLimit then none
        else
          match (skip ctx.flags rest).bind (readGroupHead ctx) with
          | none => none
          | some (.setting flags, rest) =>
            match readRepetition flags rest with
            | some (none, rest) => readBody bound { ctx with flags } depth parts earlier rest
            | _ => none
          | some (.reference n, rest) =>
            match readRepetition ctx.flags rest with
            | some (times, rest) =>
              match applyRepetition (backref n) times with
              | some e => readBody bound ctx depth (e :: parts) earlier rest
              | none => none
            | none => none
          | some (head, rest) =>
            match readBody bound (enter ctx head) (depth + 1) [] [] rest with
            | some (e, inner, ')' :: rest) =>
              let ctx' := leave ctx inner head
              match readRepetition ctx'.flags rest with
              | some (times, rest) =>
                match applyRepetition (wrap ctx e head) times with
                | some e => readBody bound ctx' depth (addPart e parts) earlier rest
                | none => none
              | none => none
            | _ => none
      | rest =>
        match readAtom ctx rest with
        | none => none
        | some (e, ctx, rest) =>
          match readRepetition ctx.flags rest with
          | some (times, rest) =>
            match applyRepetition e times with
            | some e => readBody bound ctx depth (e :: parts) earlier rest
            | none => none
          | none => none

end Reader

/-- An expression with what its notation settles beside it. -/
structure Notated where
  expr : Expr
  /-- The number of its groups. -/
  groups : Nat
  /-- The groups it refers to by number. -/
  referred : List Nat
deriving Repr

/-- Reads a whole expression. -/
def read? (t : Text) : Option Notated :=
  match Reader.readBody (t.length + 1) { size := t.byteLength } 0 [] [] t with
  | some (e, ctx, []) => some ⟨e, ctx.groups, ctx.referred⟩
  | _ => none

end RoutePattern.Expr
