import RoutePattern.Config
import RoutePattern.Text.Utf8
import RoutePattern.Toml.Reader
import RoutePattern.Toml.Record
import RoutePattern.Unicode.Property

/-! # Reading configurations

Configurations as TOML. A file that is missing or blank stands for a configuration without routes.
-/

namespace RoutePattern

open Toml (Record)

/-- A codec by its name, or by a table that holds nothing but an empty value at its name. -/
def Codec.ofToml? : Toml.Value → Option Codec
  | .string name => Codec.ofKey? (String.ofList name)
  | .table _ [(name, .table _ [])] | .table _ [(name, .array [])] =>
    Codec.ofKey? (String.ofList name)
  | _ => none

def Options.ofToml? (v : Toml.Value) : Option Options := do
  let r ← Record.ofValue? v
  let d : Options := {}
  some {
    sensitive := ← r.field? 0 "sensitive" (·.boolean?) d.sensitive
    strict := ← r.field? 1 "strict" (·.boolean?) d.strict
    anchoredStart := ← r.field? 2 "start" (·.boolean?) d.anchoredStart
    anchoredEnd := ← r.field? 3 "end" (·.boolean?) d.anchoredEnd
    delimiter := ← r.field? 4 "delimiter" (·.string?) d.delimiter
    endsWith := ← r.field? 5 "ends_with" (·.string?) d.endsWith
    prefixes := ← r.field? 6 "prefixes" (·.string?) d.prefixes
    encode := ← r.field? 7 "encode" Codec.ofToml? d.encode
    decode := ← r.field? 8 "decode" Codec.ofToml? d.decode
    validate := ← r.field? 9 "validate" (·.boolean?) d.validate }

def Dictionary.ofToml? (v : Toml.Value) : Option (Dictionary Text) := do
  let entries ← (← v.members?).mapM fun (key, value) => do some (key, ← value.string?)
  some (.ofList entries)

def RouteSpec.ofToml? (v : Toml.Value) : Option RouteSpec := do
  let r ← Record.ofValue? v
  some {
    pattern := ← (← r.get? 0 "pattern").string?
    name := ← r.field? 1 "name" (fun v => v.string?.map some) none
    labels := ← r.field? 2 "meta" Dictionary.ofToml? .empty }

namespace Config

def ofToml? (members : Toml.Members) : Option Config := do
  let r := Record.named members
  some {
    mount := ← r.field? 0 "prefix" (fun v => v.string?.map some) none
    options := ← r.field? 1 "options" Options.ofToml? {}
    routes := ← r.field? 2 "routes" (fun v => do (← v.items?).mapM RouteSpec.ofToml?) [] }

/-- The configuration that a text describes. -/
def ofText? (t : Text) : Option Config :=
  if t.all Unicode.isWhiteSpace then some {} else (Toml.read? t).bind ofToml?

end Config

/-- What stands at a path of a file system. -/
inductive File where
  | missing
  /-- A directory, for instance. -/
  | unreadable
  | bytes (content : Text.Utf8.Bytes)

inductive FileError where
  | unreadable
  | malformed
deriving DecidableEq, Repr

namespace FileError

def message : FileError → String
  | unreadable => "Failed to read config file"
  | malformed => "Failed to parse config file"

end FileError

/-- The configuration in a file. -/
def Config.ofFile : File → Except FileError Config
  | .missing => .ok {}
  | .unreadable => .error .unreadable
  | .bytes content =>
    match Text.Utf8.decode? content with
    | none => .error .unreadable
    | some t =>
      match Config.ofText? t with
      | none => .error .malformed
      | some c => .ok c

end RoutePattern
