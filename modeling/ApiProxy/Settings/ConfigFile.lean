import ApiProxy.Script.ApiFile
import ApiProxy.Settings.CommandLine
import ApiProxy.Settings.Toml

/-! The settings file. Every key may be left out, and no other key may stand in it. -/

namespace ApiProxy.Settings

structure ConfigFile where
  url? : Option String := none
  module? : Option String := none
  output? : Option FilePath := none
  target? : Option Target := none
  timeout? : Option Nat := none
  helper : Script.Helper := {}
deriving DecidableEq, Repr

namespace Toml.Value

def text? : Value → Option String
  | text value => some value
  | _ => none

def entries? : Value → Option Table
  | inline entries => some entries
  | table entries _ _ => some entries
  | _ => none

def isEmpty : Value → Bool
  | array [] => true
  | inline [] => true
  | table [] _ _ => true
  | _ => false

end Toml.Value

open Toml

/-- A target is written as its name, or as a table that gives nothing for its name. -/
def targetOf? : Value → Option Target
  | .text name => Target.ofName? name
  | value =>
    match value.entries? with
    | some [(name, contents)] => if contents.isEmpty then Target.ofName? name else none
    | _ => none

def secondsOf? : Value → Option Nat
  | .integer value => if 0 ≤ value then some value.toNat else none
  | _ => none

def addHelperEntry (helper : Script.Helper) (entry : String × Value) : Option Script.Helper :=
  match entry.1 with
  | "http_client_module" => entry.2.text?.map fun source => { helper with source }
  | "http_client_function" => entry.2.text?.map fun name => { helper with name }
  | _ => none

/-- The helper is written as a table, or as a list of its source and its name. -/
def helperOf? : Value → Option Script.Helper
  | .array [] => some {}
  | .array [source] => source.text?.map fun source => { source }
  | .array (source :: name :: _) => do
    let source ← source.text?
    let name ← name.text?
    some { source, name }
  | value => value.entries?.bind fun entries => entries.foldlM addHelperEntry {}

def ConfigFile.addEntry (file : ConfigFile) (entry : String × Value) : Option ConfigFile :=
  match entry.1 with
  | "url" => entry.2.text?.map fun url => { file with url? := some url }
  | "module" => entry.2.text?.map fun module => { file with module? := some module }
  | "output" => entry.2.text?.map fun output => { file with output? := some ⟨output⟩ }
  | "target" => (targetOf? entry.2).map fun target => { file with target? := some target }
  | "timeout" => (secondsOf? entry.2).map fun timeout => { file with timeout? := some timeout }
  | "typescript" => (helperOf? entry.2).map fun helper => { file with helper }
  | _ => none

def ConfigFile.ofText? (text : String) : Option ConfigFile :=
  (Toml.read text).bind fun table => table.foldlM ConfigFile.addEntry {}

end ApiProxy.Settings
