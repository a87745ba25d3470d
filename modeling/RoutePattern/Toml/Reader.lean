import RoutePattern.Toml
import RoutePattern.Toml.Date
import RoutePattern.Toml.Number

/-! # Reading TOML

Reading answers the table of a whole text, or nothing where the text is not TOML. The functions that
need it take a bound on the characters to read as their first argument.
-/

namespace RoutePattern.Toml.Reader

/-! ## Blanks and line ends -/

def isBlank (c : Char) : Bool := c == ' ' || c == '\t'

def skipBlanks (t : Text) : Text := t.dropWhile isBlank

/-- Characters that strings and comments may hold. -/
def isShown (c : Char) : Bool := c == '\t' || (' ' ≤ c && c != '\x7F')

/-- The text behind a line break. -/
def newline? : Text → Option Text
  | '\n' :: t | '\r' :: '\n' :: t => some t
  | _ => none

def skipComment (t : Text) : Text := if t.head? = some '#' then t.dropWhile isShown else t

/-- The text behind blanks, a comment and the end of the line. -/
def lineEnd? (t : Text) : Option Text :=
  let t := skipComment (skipBlanks t)
  if t.isEmpty then some [] else newline? t

/-- Skips blanks, comments and line breaks. -/
def skipSpace : (bound : Nat) → Text → Text
  | 0, t => t
  | bound + 1, t =>
    let t := skipComment (skipBlanks t)
    match newline? t with
    | some rest => skipSpace bound rest
    | none => t

/-! ## Strings -/

/-- The character of an escape with a single letter. -/
def letterEscape? : Char → Option Char
  | 'b' => some '\x08'
  | 't' => some '\t'
  | 'n' => some '\n'
  | 'f' => some '\x0C'
  | 'r' => some '\r'
  | '"' => some '"'
  | '\\' => some '\\'
  | _ => none

/-- The character of an escape by number. -/
def numbered? (digits : Text) : Option Char :=
  let n := Number.valueOf 16 digits
  if digits.all Number.isHexDigit && n.isValidChar then some (Char.ofNat n) else none

/-- Puts a character before the text that is read. -/
def put (c : Char) (read : Option (Text × Text)) : Option (Text × Text) :=
  read.map fun (t, behind) => (c :: t, behind)

/-- The text up to a quote, and the text behind it. -/
def quoted? : Text → Option (Text × Text)
  | '"' :: rest => some ([], rest)
  | '\\' :: 'u' :: a :: b :: c :: d :: rest => do put (← numbered? [a, b, c, d]) (quoted? rest)
  | '\\' :: 'U' :: a :: b :: c :: d :: e :: f :: g :: h :: rest => do
    put (← numbered? [a, b, c, d, e, f, g, h]) (quoted? rest)
  | '\\' :: c :: rest => do put (← letterEscape? c) (quoted? rest)
  | c :: rest => if isShown c && c != '\\' then put c (quoted? rest) else none
  | [] => none

/-- A backslash at the end of a line, which takes the line break and all blanks behind it. -/
def joinsLines (t : Text) : Bool := (newline? (skipBlanks t)).isSome

/-- The text up to three quotes, before which up to two more may stand. While `joining`, blanks and
line breaks are skipped. -/
def quotedLines? (joining : Bool) : Text → Option (Text × Text)
  | '"' :: '"' :: '"' :: '"' :: '"' :: rest => some (['"', '"'], rest)
  | '"' :: '"' :: '"' :: '"' :: rest => some (['"'], rest)
  | '"' :: '"' :: '"' :: rest => some ([], rest)
  | '\\' :: 'u' :: a :: b :: c :: d :: rest => do
    put (← numbered? [a, b, c, d]) (quotedLines? false rest)
  | '\\' :: 'U' :: a :: b :: c :: d :: e :: f :: g :: h :: rest => do
    put (← numbered? [a, b, c, d, e, f, g, h]) (quotedLines? false rest)
  | '\\' :: c :: rest =>
    if joinsLines (c :: rest) then quotedLines? true rest
    else do put (← letterEscape? c) (quotedLines? false rest)
  | '\r' :: '\n' :: rest =>
    if joining then quotedLines? true rest else put '\n' (quotedLines? false rest)
  | c :: rest =>
    if joining && (isBlank c || c == '\n') then quotedLines? true rest
    else if isShown c || c == '\n' then put c (quotedLines? false rest)
    else none
  | [] => none

/-- The text up to an apostrophe. -/
def literal? : Text → Option (Text × Text)
  | '\'' :: rest => some ([], rest)
  | c :: rest => if isShown c then put c (literal? rest) else none
  | [] => none

/-- The text up to three apostrophes, before which up to two more may stand. -/
def literalLines? : Text → Option (Text × Text)
  | '\'' :: '\'' :: '\'' :: '\'' :: '\'' :: rest => some (['\'', '\''], rest)
  | '\'' :: '\'' :: '\'' :: '\'' :: rest => some (['\''], rest)
  | '\'' :: '\'' :: '\'' :: rest => some ([], rest)
  | '\r' :: '\n' :: rest => put '\n' (literalLines? rest)
  | c :: rest => if isShown c || c == '\n' then put c (literalLines? rest) else none
  | [] => none

/-- Text over several lines does not hold a line break right behind its opening. -/
def behindOpening (t : Text) : Text := (newline? t).getD t

def string? : Text → Option (Text × Text)
  | '"' :: '"' :: '"' :: rest => quotedLines? false (behindOpening rest)
  | '"' :: rest => quoted? rest
  | '\'' :: '\'' :: '\'' :: rest => literalLines? (behindOpening rest)
  | '\'' :: rest => literal? rest
  | _ => none

/-! ## Keys -/

/-- Values may nest as deep as this, and keys have as many parts. -/
def nestingLimit : Nat := 79

def isKeyChar (c : Char) : Bool := c.isAlphanum || c == '_' || c == '-'

/-- A part of a key. -/
def keyPart? (t : Text) : Option (Text × Text) :=
  match t with
  | '"' :: rest => quoted? rest
  | '\'' :: rest => literal? rest
  | _ =>
    let part := t.takeWhile isKeyChar
    if part.isEmpty then none else some (part, t.dropWhile isKeyChar)

/-- The parts of a key before the last one, the last one, and the text behind the key. -/
def key? : (bound : Nat) → Text → Option (List Text × Text × Text)
  | 0, _ => none
  | bound + 1, t => do
    let (part, behind) ← keyPart? (skipBlanks t)
    match skipBlanks behind with
    | '.' :: rest =>
      let (path, last, behind) ← key? bound rest
      some (part :: path, last, behind)
    | behind => some ([], part, behind)

/-! ## Values -/

mutual

def value? (depth : Nat) : (bound : Nat) → Text → Option (Value × Text)
  | 0, _ => none
  | bound + 1, t =>
    match t with
    | '[' :: rest =>
      if depth < nestingLimit then do
        let (items, behind) ← items? (depth + 1) bound rest
        some (.array items, behind)
      else none
    | '{' :: rest =>
      if depth < nestingLimit then
        match skipBlanks rest with
        | '}' :: behind => some (.table .inline [], behind)
        | rest => do
          let (members, behind) ← members? (depth + 1) bound [] rest
          some (.table .inline members, behind)
      else none
    | '"' :: _ | '\'' :: _ => (string? t).map fun (s, behind) => (.string s, behind)
    | 't' :: 'r' :: 'u' :: 'e' :: behind => some (.boolean true, behind)
    | 'f' :: 'a' :: 'l' :: 's' :: 'e' :: behind => some (.boolean false, behind)
    | _ =>
      match Date.read? t with
      | some (date, behind) => some (.date date, behind)
      | none => (Number.read? t).map fun behind => (.number, behind)

/-- The items of an array up to its end, before which a comma may stand. -/
def items? (depth : Nat) : (bound : Nat) → Text → Option (List Value × Text)
  | 0, _ => none
  | bound + 1, t =>
    match skipSpace t.length t with
    | ']' :: behind => some ([], behind)
    | t => do
      let (item, behind) ← value? depth bound t
      match skipSpace behind.length behind with
      | ',' :: rest =>
        let (items, behind) ← items? depth bound rest
        some (item :: items, behind)
      | ']' :: behind => some ([item], behind)
      | _ => none

/-- The members of a table between braces, behind those that are read. -/
def members? (depth : Nat) : (bound : Nat) → Members → Text → Option (Members × Text)
  | 0, _, _ => none
  | bound + 1, read, t => do
    let (path, key, behind) ← key? nestingLimit t
    let (value, behind) ← value? depth bound (skipBlanks (← Text.dropHead? ['='] behind))
    let read ← read.assign? path key value .inline
    match skipBlanks behind with
    | ',' :: rest => members? depth bound read rest
    | '}' :: behind => some (read, behind)
    | _ => none

end

/-! ## Lines -/

/-- The tables of a text so far, and the header that the next lines belong to. -/
structure Document where
  members : Members := []
  header : List Text := []

namespace Document

/-- A line that gives a key its value. -/
def assign? (d : Document) (path : List Text) (key : Text) (value : Value) : Option Document := do
  let members ← Members.within .passed (Members.assign? path key value) d.header .header d.members
  some { d with members }

def open? (d : Document) (path : List Text) (key : Text) : Option Document := do
  some ⟨← d.members.open? path key, path ++ [key]⟩

def openRow? (d : Document) (path : List Text) (key : Text) : Option Document := do
  some ⟨← d.members.openRow? path key, path ++ [key]⟩

/-- The document with the statement at the start of the text, and the text behind it. -/
def statement? (d : Document) (t : Text) : Option (Document × Text) :=
  match t with
  | '[' :: '[' :: rest => do
    let (path, key, behind) ← key? nestingLimit rest
    some (← d.openRow? path key, ← Text.dropHead? [']', ']'] behind)
  | '[' :: rest => do
    let (path, key, behind) ← key? nestingLimit rest
    some (← d.open? path key, ← Text.dropHead? [']'] behind)
  | _ => do
    let (path, key, behind) ← key? nestingLimit t
    let behind := skipBlanks (← Text.dropHead? ['='] behind)
    let (value, behind) ← value? 0 (2 * behind.length + 2) behind
    some (← d.assign? path key value, behind)

end Document

def document? : (bound : Nat) → Document → Text → Option Document
  | 0, _, _ => none
  | bound + 1, d, t =>
    match skipSpace t.length t with
    | [] => some d
    | t => do
      let (d, behind) ← d.statement? t
      document? bound d (← lineEnd? behind)

/-- The mark that may stand at the start of a text to tell its encoding. -/
def byteOrderMark : Char := '\uFEFF'

end Reader

/-- The table that a text describes. -/
def read? (t : Text) : Option Members :=
  let t := if t.head? = some Reader.byteOrderMark then t.tail else t
  (Reader.document? (t.length + 1) {} t).map (·.members)

end RoutePattern.Toml
