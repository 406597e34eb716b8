import ApiProxy.Failure
import ApiProxy.Settings.ConfigFile
import ApiProxy.Unicode.Letter

/-! The settings of a run. Each is taken from the command line, or else from the settings file, or else has a
default; the address of the service and the module have none and must not be blank. -/

namespace ApiProxy.Settings

structure Resolved where
  url : String
  module : String
  output : FilePath
  target : Target
  isDryRun : Bool
  timeout : Nat
  helper : Script.Helper
deriving DecidableEq, Repr

def defaultTimeout : Nat := 30

def defaultOutput : FilePath := ⟨"."⟩

def required (value : Option String) (name : String) : Except Failure String :=
  match (value.map Unicode.trimmed).filter fun text => !text.isEmpty with
  | some text => .ok text
  | none => .error (.missingArgument name)

def Resolved.merge (line : CommandLine) (file : ConfigFile) : Except Failure Resolved := do
  let url ← required (line.url? <|> file.url?) "url"
  let module ← required (line.module? <|> file.module?) "module"
  let timeout := (line.timeout? <|> file.timeout?).getD defaultTimeout
  if timeout = 0 then .error (.settings .zeroTimeout)
  if !Script.isIdentifier file.helper.name then .error (.settings (.helperNotIdentifier file.helper.name))
  .ok {
    url
    module
    output := (line.output? <|> file.output?).getD defaultOutput
    target := (line.target? <|> file.target?).getD .typeScript
    isDryRun := line.isDryRun
    timeout
    helper := file.helper }

/-- What the text of a settings file, or the failure to read it, amounts to. -/
def ConfigFile.load (path : FilePath) (content : Except SystemError String) : Except Failure ConfigFile :=
  match content with
  | .error cause => .error (.unreadable path.text cause)
  | .ok text =>
    match ConfigFile.ofText? text with
    | some file => .ok file
    | none => .error (.settings (.unreadableFile path.text))

/-- Resolves a command line, reading the settings file that it names. -/
def Resolved.ofCommandLine {m : Type → Type} [Monad m] (line : CommandLine)
    (readFile : FilePath → m (Except SystemError String)) : m (Except Failure Resolved) := do
  match line.configFile? with
  | none => pure (Resolved.merge line {})
  | some path => do
    match ConfigFile.load path (← readFile path) with
    | .ok file => pure (Resolved.merge line file)
    | .error failure => pure (.error failure)

end ApiProxy.Settings
