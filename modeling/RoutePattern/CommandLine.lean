import RoutePattern.CommandLine.Arguments
import RoutePattern.CommandLine.Help

/-! # Commands

What the program is asked to do. The first argument names the command, and the others are its
arguments.
-/

namespace RoutePattern

namespace CommandLine

inductive Command where
  | tokens (pattern : Text)
  | matching (pattern path : Text) (sensitive strict partly json : Bool)
  | build (pattern : Text) (params : List Text) (validate encode : Bool)
  | resolve (paths : List Text) (file : Text) (json : Bool)
deriving DecidableEq, Repr

inductive Request where
  | run (c : Command)
  /-- A text about the program. -/
  | tell (t : String)
  | misuse
deriving DecidableEq, Repr

/-- The file that holds the routes unless another one is named. -/
def defaultFile : Text := "routekit.toml".toList

namespace Request

/-- The request of arguments of this shape; `help` says what they are for. -/
def ofArguments (s : Shape) (help : String) (command : Arguments → Option Command)
    (args : List Text) : Request :=
  match s.read args with
  | .misuse => .misuse
  | .help => .tell help
  | .given a => (command a).elim .misuse .run

def tokens : List Text → Request :=
  ofArguments ⟨[], [], 1, some 1⟩ Help.tokens fun a => do some (.tokens (← a.positional[0]?))

def matching : List Text → Request :=
  ofArguments ⟨["sensitive", "strict", "prefix-match", "json"], [], 2, some 2⟩ Help.matching
    fun a => do
      some (.matching (← a.positional[0]?) (← a.positional[1]?) (a.has "sensitive") (a.has "strict")
        (a.has "prefix-match") (a.has "json"))

def build : List Text → Request :=
  ofArguments ⟨["no-validate", "encode"], [], 1, none⟩ Help.build fun a => do
    some (.build (← a.positional[0]?) a.positional.tail (!a.has "no-validate") (a.has "encode"))

def resolve : List Text → Request :=
  ofArguments ⟨["json"], [("config", 'c')], 1, none⟩ Help.resolve fun a =>
    some (.resolve a.positional ((a.value? "config").getD defaultFile) (a.has "json"))

/-- The help about the command that the arguments name. -/
def help (args : List Text) : Request :=
  match args.map String.ofList with
  | [] => .tell Help.overview
  | ["tokens"] => .tell Help.tokens
  | ["match"] => .tell Help.matching
  | ["build"] => .tell Help.build
  | ["resolve"] => .tell Help.resolve
  | ["help"] => .tell Help.help
  | _ => .misuse

def read : List Text → Request
  | [] => .misuse
  | ('-' :: 'h' :: _) :: _ => .tell Help.overview
  | ('-' :: 'V' :: _) :: _ => .tell Help.version
  | first :: rest =>
    match String.ofList first with
    | "--help" => .tell Help.overview
    | "--version" => .tell Help.version
    | "help" => help rest
    | "tokens" => tokens rest
    | "match" => matching rest
    | "build" => build rest
    | "resolve" => resolve rest
    | _ => .misuse

end Request

end CommandLine

end RoutePattern
