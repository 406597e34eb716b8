import ApiProxy.FilePath
import ApiProxy.Script.Identifier

/-! The command line. Options take a value, either attached (`--url=X`, `-uX`, `-u=X`) or as the next
argument; flags take none; short flags may be run together. Three options fall back to environment
variables. A value that stands by itself is taken over only when the next option or the end of the line is
reached, so an unknown argument right behind it is reported first. -/

namespace ApiProxy.Settings

/-- The languages that clients can be generated for. -/
inductive Target where
  | typeScript
deriving DecidableEq, Repr

def Target.name : Target → String
  | typeScript => Script.extension

def Target.ofName? (name : String) : Option Target :=
  if name = Script.extension || name = Script.languageName.toLower then some .typeScript else none

structure CommandLine where
  url? : Option String := none
  module? : Option String := none
  output? : Option FilePath := none
  target? : Option Target := none
  configFile? : Option FilePath := none
  isDryRun : Bool := false
  timeout? : Option Nat := none
  verbosity : Nat := 0
  logsAsJson : Bool := false
deriving DecidableEq, Repr

/-- Why a command line is not carried out. -/
inductive Refusal where
  | unknownArgument
  | invalidValue
  | unusableValue
  | repeatedArgument
  | unwantedValue
  | helpWanted
  | versionWanted
deriving DecidableEq, Repr

/-- What is said about a command line that cannot be carried out. -/
def Refusal.message : Refusal → String
  | unknownArgument => "error: unexpected argument found\n"
  | invalidValue => "error: an option has no value or one that it cannot take\n"
  | unusableValue => "error: the value of an option is no number\n"
  | repeatedArgument => "error: an argument cannot be used multiple times\n"
  | unwantedValue => "error: a flag takes no value\n"
  | helpWanted => ""
  | versionWanted => ""

inductive ValueOption where
  | url | module | output | target | config | timeout
deriving DecidableEq, Repr

inductive Flag where
  | dryRun | verbose | json | help | version
deriving DecidableEq, Repr

inductive Argument where
  | option (option : ValueOption)
  | flag (flag : Flag)
deriving DecidableEq, Repr

def longName? (name : String) : Option Argument :=
  match name with
  | "url" => some (.option .url)
  | "module" => some (.option .module)
  | "output" => some (.option .output)
  | "target" => some (.option .target)
  | "config" => some (.option .config)
  | "timeout" => some (.option .timeout)
  | "dry-run" => some (.flag .dryRun)
  | "json" => some (.flag .json)
  | "help" => some (.flag .help)
  | "version" => some (.flag .version)
  | _ => none

def shortName? (letter : Char) : Option Argument :=
  match letter with
  | 'u' => some (.option .url)
  | 'm' => some (.option .module)
  | 'o' => some (.option .output)
  | 't' => some (.option .target)
  | 'c' => some (.option .config)
  | 'v' => some (.flag .verbose)
  | 'h' => some (.flag .help)
  | 'V' => some (.flag .version)
  | _ => none

def largestCount : Nat := 0xFFFFFFFFFFFFFFFF

/-- A number of 64 bits in decimal digits, with or without a plus sign. -/
def count? (text : String) : Option Nat :=
  let digits := match text.toList with
    | '+' :: rest => rest
    | cs => cs
  if digits.isEmpty || !digits.all Char.isDigit then none
  else
    let value := digits.foldl (fun value c => value * 10 + (c.toNat - 48)) 0
    if value ≤ largestCount then some value else none

def path? (text : String) : Except Refusal FilePath :=
  if text.isEmpty then .error .invalidValue else .ok ⟨text⟩

/-- A setting may be given once. -/
def unset {α : Type} (held : Option α) : Except Refusal Unit :=
  if held.isSome then .error .repeatedArgument else .ok ()

namespace CommandLine

def assign (line : CommandLine) (option : ValueOption) (value : String) : Except Refusal CommandLine :=
  match option with
  | .url => do
    unset line.url?
    .ok { line with url? := some value }
  | .module => do
    unset line.module?
    .ok { line with module? := some value }
  | .output => do
    unset line.output?
    .ok { line with output? := some (← path? value) }
  | .target => do
    unset line.target?
    match Target.ofName? value with
    | some target => .ok { line with target? := some target }
    | none => .error .invalidValue
  | .config => do
    unset line.configFile?
    .ok { line with configFile? := some (← path? value) }
  | .timeout => do
    unset line.timeout?
    match count? value with
    | some seconds => .ok { line with timeout? := some seconds }
    | none => .error .unusableValue

def raise (line : CommandLine) (flag : Flag) : Except Refusal CommandLine :=
  match flag with
  | .dryRun => if line.isDryRun then .error .repeatedArgument else .ok { line with isDryRun := true }
  | .json => if line.logsAsJson then .error .repeatedArgument else .ok { line with logsAsJson := true }
  | .verbose => .ok { line with verbosity := min 255 (line.verbosity + 1) }
  | .help => .error .helpWanted
  | .version => .error .versionWanted

end CommandLine

/-- A command line that is being read: what is settled, and the last option if its value is still to come or
still to be taken over. -/
structure Reading where
  line : CommandLine := {}
  pending : Option (ValueOption × Option String) := none
deriving DecidableEq, Repr

namespace Reading

def settle (reading : Reading) : Except Refusal CommandLine :=
  match reading.pending with
  | none => .ok reading.line
  | some (_, none) => .error .invalidValue
  | some (option, some value) => reading.line.assign option value

def takeFlag (reading : Reading) (flag : Flag) : Except Refusal Reading := do
  let line ← reading.settle
  .ok ⟨← line.raise flag, none⟩

def takeOption (reading : Reading) (option : ValueOption) (attached : Option String) : Except Refusal Reading := do
  let line ← reading.settle
  match attached with
  | some value => .ok ⟨← line.assign option value, none⟩
  | none => .ok ⟨line, some (option, none)⟩

/-- The value attached to a short option: what follows its letter, less an equals sign. -/
def attachedValue : List Char → Option String
  | [] => none
  | '=' :: rest => some (String.ofList rest)
  | rest => some (String.ofList rest)

def takeShort (reading : Reading) : List Char → Except Refusal Reading
  | [] => .ok reading
  | letter :: rest =>
    match shortName? letter with
    | some (.flag flag) => do
      let reading ← reading.takeFlag flag
      reading.takeShort rest
    | some (.option option) => reading.takeOption option (attachedValue rest)
    | none => .error .unknownArgument

/-- Splits a long argument at its first equals sign. -/
def splitLong (text : List Char) : String × Option String :=
  match cutAt '=' text with
  | (name, attached) => (String.ofList name, attached.map String.ofList)

def takeLong (reading : Reading) (text : List Char) : Except Refusal Reading :=
  match splitLong text with
  | (name, attached) =>
    match longName? name, attached with
    | some (.option option), _ => reading.takeOption option attached
    | some (.flag flag), none => reading.takeFlag flag
    | some (.flag _), some _ => .error .unwantedValue
    | none, _ => .error .unknownArgument

/-- An argument that is no option can only be the value of the option in front of it. -/
def takePlain (reading : Reading) (value : String) : Except Refusal Reading :=
  match reading.pending with
  | some (option, none) => .ok { reading with pending := some (option, some value) }
  | _ => .error .unknownArgument

def take (reading : Reading) (argument : String) : Except Refusal Reading :=
  match argument.toList with
  | '-' :: '-' :: text => reading.takeLong text
  | '-' :: letter :: letters => reading.takeShort (letter :: letters)
  | _ => reading.takePlain argument

/-- Nothing may follow a double hyphen. -/
def takeAll (reading : Reading) : List String → Except Refusal Reading
  | [] => .ok reading
  | argument :: arguments =>
    if argument = "--" then
      if arguments.isEmpty then .ok reading else .error .unknownArgument
    else do
      let reading ← reading.take argument
      reading.takeAll arguments

end Reading

/-- Environment variables by name. -/
abbrev Environment := List (String × String)

def fallback (environment : Environment) (variableName : String) (option : ValueOption) (isSet : Bool)
    (line : CommandLine) : Except Refusal CommandLine :=
  if isSet then .ok line
  else
    match environment.lookup variableName with
    | some value => line.assign option value
    | none => .ok line

def CommandLine.parse (arguments : List String) (environment : Environment) : Except Refusal CommandLine := do
  let reading ← Reading.takeAll {} arguments
  let line ← reading.settle
  let line ← fallback environment "PROXYGEN_URL" .url line.url?.isSome line
  let line ← fallback environment "PROXYGEN_MODULE" .module line.module?.isSome line
  fallback environment "PROXYGEN_OUTPUT" .output line.output?.isSome line

namespace CommandLine

def helpLines : List String := [
  "Generates TypeScript client proxies (models and API wrappers) from remote API descriptions",
  "",
  "Usage: proxygen [OPTIONS]",
  "",
  "Options:",
  "  -u, --url <URL>        Base URL of the remote service (or a file:// URL of a saved definition) [env: PROXYGEN_URL=]",
  "  -m, --module <MODULE>  Module to generate proxies for (case-insensitive) [env: PROXYGEN_MODULE=]",
  "  -o, --output <DIR>     Root directory for generated files [default: .] [env: PROXYGEN_OUTPUT=]",
  "  -t, --target <TARGET>  Target language [default: ts] [possible values: ts]",
  "  -c, --config <FILE>    TOML config file",
  "      --dry-run          Print generated files instead of writing them",
  "      --timeout <SECS>   Timeout for the API definition request, in seconds [default: 30]",
  "  -v...                  Increase verbosity (-v, -vv, -vvv)",
  "      --json             Output logs as JSON",
  "  -h, --help             Print help",
  "  -V, --version          Print version"]

def help : String := String.join (helpLines.map fun line => line ++ "\n")

def version : String := "proxygen 0.1.0\n"

end CommandLine

end ApiProxy.Settings
