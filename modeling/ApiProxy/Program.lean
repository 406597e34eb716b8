import ApiProxy.Log
import ApiProxy.Run
import ApiProxy.SchemaSource
import ApiProxy.Settings.EnvFile
import ApiProxy.Settings.Resolved

/-! The program as a whole: from the command line and the environment to the files that are written, the text
that is shown and the way it ends. What surrounds it is given as actions. -/

namespace ApiProxy

open Settings

/-- What a program acts on: a file system, the directory it runs in, and servers, which are given a number of
seconds to answer. -/
structure Surroundings (m : Type → Type) where
  files : FileSystem m
  directory : FilePath
  request : Nat → Url → m (Except String Answer)

/-- How a program ended. -/
inductive Ending where
  | refused (refusal : Refusal)
  | failed (failure : Failure)
  | finished (summary : Summary)
deriving DecidableEq, Repr

/-- The reading of the command line may ask for a text instead of a run, which is no failure. -/
def Ending.exitCode : Ending → Nat
  | refused .helpWanted => 0
  | refused .versionWanted => 0
  | refused _ => 2
  | failed _ => 1
  | finished _ => 0

structure Report where
  notices : List Notice := []
  logsAsJson : Bool := false
  output : String := ""
  ending : Ending
deriving DecidableEq, Repr

def Report.logLine (report : Report) (record : LogRecord) : String :=
  if report.logsAsJson then record.toValue.toText else record.line

def Report.log (report : Report) : List String := report.notices.map fun notice => report.logLine notice.record

namespace Surroundings

variable {m : Type → Type} [Monad m]

def envFileName : String := ".env"

/-- The first file among those in the directory and the ones around it. -/
def findFile (surroundings : Surroundings m) : List FilePath → m (Option FilePath)
  | [] => pure none
  | path :: paths => do
    if ← surroundings.files.isFile path then pure (some path) else surroundings.findFile paths

def envFilePaths (surroundings : Surroundings m) : List FilePath :=
  let root : FilePath := ⟨"/"⟩
  (surroundings.directory.ancestors ++ [root]).map fun directory => directory.join envFileName

/-- The environment with what the nearest environment file adds to it. -/
def environment (surroundings : Surroundings m) (given : Environment) : m Environment := do
  match ← surroundings.findFile surroundings.envFilePaths with
  | none => pure given
  | some path => do
    match ← surroundings.files.read path with
    | .ok text => pure (EnvFile.load given text)
    | .error _ => pure given

def resolve (surroundings : Surroundings m) (line : CommandLine) : m (Except Failure Resolved) :=
  Resolved.ofCommandLine line surroundings.files.read

/-- A run with its schema taken from the address in the settings and its files written to the file system. -/
def run (surroundings : Surroundings m) (settings : Resolved) : m (Traced Summary) := do
  match SchemaSource.ofAddress settings.url with
  | .error failure => pure (.ofExcept (.error failure))
  | .ok source =>
    let request : RunRequest := ⟨settings.module, settings.output, settings.isDryRun, settings.helper⟩
    let fetch := source.fetch surroundings.files (surroundings.request settings.timeout)
    request.run source.location fetch surroundings.files.replace

def report (line : CommandLine) (settings : Resolved) (traced : Traced Summary) : Report :=
  let ending := match traced.outcome with
    | .error failure => Ending.failed failure
    | .ok summary => .finished summary
  let output := match traced.outcome with
    | .ok summary => if settings.isDryRun then summary.output.listing else ""
    | .error _ => ""
  { notices := traced.notices, logsAsJson := line.logsAsJson, output, ending }

/-- What is shown instead of a run. -/
def refuse (refusal : Refusal) : Report :=
  let output := match refusal with
    | .helpWanted => CommandLine.help
    | .versionWanted => CommandLine.version
    | _ => ""
  { output, ending := .refused refusal }

def perform (surroundings : Surroundings m) (arguments : List String) (given : Environment) : m Report := do
  let environment ← surroundings.environment given
  match CommandLine.parse arguments environment with
  | .error refusal => pure (refuse refusal)
  | .ok line => do
    match ← surroundings.resolve line with
    | .error failure => pure { ending := .failed failure }
    | .ok settings => do
      let traced ← surroundings.run settings
      pure (report line settings traced)

end Surroundings

end ApiProxy
