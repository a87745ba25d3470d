import RoutePattern.CommandLine
import RoutePattern.CommandLine.Assignments
import RoutePattern.Config.Json
import RoutePattern.Config.Reader
import RoutePattern.Params.Json

/-! # Running commands

What a command writes and how it ends. A path that is not matched is not an error, but it does not
count as success either.
-/

namespace RoutePattern.CommandLine

structure Report where
  exitCode : UInt8
  output : Text := []
  /-- The first line of the complaint. -/
  error : Option Text := none
deriving DecidableEq, Repr

namespace Report

def success (output : Text) : Report := ⟨0, output, none⟩

/-- The report of paths of which some may not be matched. -/
def ofMatching (matched : Bool) (output : Text) : Report := ⟨if matched then 0 else 1, output, none⟩

/-- A complaint; only its first line counts. -/
def failure (complaint : Text) : Report :=
  let (line, more) := Text.splitFirst '\n' ("Error: ".toList ++ complaint)
  let line := if more.isSome && line.getLast? = some '\r' then line.dropLast else line
  ⟨1, [], some line⟩

def misuse : Report := ⟨2, [], none⟩

end Report

def line (t : Text) : Text := t ++ ['\n']

/-! ## Tokens -/

/-- A text with blanks before or behind it up to a width. -/
def blanks (width : Nat) (t : Text) : Text := List.replicate (width - t.length) ' '

def tokenLine (index : Nat) (t : Token) : Text :=
  let number := Text.Decimal.write index
  let kind := match t with
    | .text _ => "text".toList
    | .param _ => "param".toList
  let quoted := Text.Quoted.write
  let content := match t with
    | .text t => quoted t
    | .param k =>
      "name=".toList ++ k.name.text ++ " prefix=".toList ++ quoted k.lead ++
        " suffix=".toList ++ quoted k.trail ++ " pattern=".toList ++ quoted k.fragment ++
        " modifier=".toList ++ quoted (k.modifier.toList.map (·.char))
  line (blanks 3 number ++ number ++ "  ".toList ++ kind ++ blanks 6 kind ++ [' '] ++ content)

def tokenLines (pattern : Text) (ts : List Token) : Text :=
  line ("Tokens for ".toList ++ pattern) ++ line [] ++
    (ts.mapIdx tokenLine).flatten

/-! ## Matches -/

def shownValue : Value → Text
  | .single t => t
  | .repeated ts => ['['] ++ [',', ' '].intercalate ts ++ [']']

def paramLines (p : Params) : Text :=
  if p.isEmpty then line "  (no parameters)".toList
  else p.entries.flatMap fun e => line ("  ".toList ++ e.1.text ++ " = ".toList ++ shownValue e.2)

def noMatchLine (path : Text) : Text := line ("no match ".toList ++ path)

def matchLines (path : Text) : Option Match → Text
  | some found => line ("matched ".toList ++ found.path) ++ paramLines found.params
  | none => noMatchLine path

/-- An object with its members in the order of their keys. -/
def orderedObject (members : List (String × Json)) : Json :=
  .ofDictionary (.ofList (members.map fun m => (m.1.toList, m.2)))

def matchJson : Option Match → Json
  | some found =>
    orderedObject [("matched", .bool true), ("path", .string found.path),
      ("index", .number found.index), ("params", found.params.toOrderedJson)]
  | none => orderedObject [("matched", .bool false)]

def resolvedLines (path : Text) : Option (Resolved RouteInfo) → Text
  | some found =>
    line (found.path ++ " → ".toList ++ found.info.name ++ " (".toList ++ found.pattern ++ [')']) ++
      paramLines found.params
  | none => noMatchLine path

def resolvedJson (path : Text) : Option (Resolved RouteInfo) → Json
  | some found =>
    orderedObject [("path", .string found.path), ("pattern", .string found.pattern),
      ("name", .string found.info.name), ("meta", .ofLabels found.info.labels),
      ("params", found.params.toOrderedJson)]
  | none => orderedObject [("path", .string path), ("pattern", .null)]

/-! ## Commands -/

namespace Command

def invalidPattern (pattern : Text) : Report := .failure ("Invalid pattern: ".toList ++ pattern)

def runTokens (pattern : Text) : Report :=
  match Token.ofPattern? {} pattern with
  | .error _ => invalidPattern pattern
  | .ok ts => .success (tokenLines pattern ts)

def runMatching (pattern path : Text) (sensitive strict partly json : Bool) : Report :=
  let options : Options := { sensitive, strict, anchoredEnd := !partly, decode := .percent }
  match Matcher.ofPattern options pattern with
  | .error _ => invalidPattern pattern
  | .ok m =>
    let found := m.match? path
    .ofMatching found.isSome
      (if json then line (matchJson found).pretty else matchLines path found)

def runBuild (pattern : Text) (args : List Text) (validate encode : Bool) : Report :=
  let options : Options := { validate, encode := if encode then .percent else .identity }
  match Builder.ofPattern options pattern with
  | .error _ => invalidPattern pattern
  | .ok b =>
    match Assignments.params args with
    | .error t => .failure ("Expected name=value, got ".toList ++ Text.Quoted.write t)
    | .ok params =>
      match b.build params with
      | .error _ => .failure ("Cannot build ".toList ++ pattern)
      | .ok path => .success (line path)

def runResolve (paths : List Text) (name : Text) (file : File) (json : Bool) : Report :=
  let quoted := Text.Quoted.write name
  match Config.ofFile file with
  | .error e => .failure (e.message.toList ++ ": ".toList ++ quoted)
  | .ok config =>
    match config.router with
    | .error _ => .failure ("Invalid route in ".toList ++ quoted)
    | .ok router =>
      let found := paths.map fun path => (path, router.resolve? config.mountPrefix path)
      .ofMatching (found.all (·.2.isSome))
        (if json then line (Json.array (found.map fun f => resolvedJson f.1 f.2)).pretty
        else found.flatMap fun f => resolvedLines f.1 f.2)

/-- The report of a command, which may read a file by its name. -/
def run (files : Text → File) : Command → Report
  | tokens pattern => runTokens pattern
  | matching pattern path sensitive strict partly json =>
    runMatching pattern path sensitive strict partly json
  | build pattern params validate encode => runBuild pattern params validate encode
  | resolve paths name json => runResolve paths name (files name) json

end Command

/-- The file that a command reads. -/
def Command.file? : Command → Option Text
  | resolve _ name _ => some name
  | tokens _ | matching _ _ _ _ _ _ | build _ _ _ _ => none

def Request.report (files : Text → File) : Request → Report
  | run c => c.run files
  | tell t => .success t.toList
  | misuse => .misuse

/-- What the program does when it is called with these arguments. -/
def report (files : Text → File) (args : List Text) : Report := (Request.read args).report files

end RoutePattern.CommandLine
