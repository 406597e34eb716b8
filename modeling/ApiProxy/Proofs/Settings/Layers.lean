import ApiProxy.Proofs.Outcome
import ApiProxy.Settings.Resolved

/-! Settings by layers: the command line over the environment over the settings file over the defaults. Each setting
is taken from the highest layer that gives one, and only what was taken is looked at afterwards. -/

namespace ApiProxy.Settings

/-- The value of the highest layer that gives one; the layers are listed from the highest down. -/
def highest {α : Type} (layers : List (Option α)) : Option α := layers.findSome? id

/-- What each layer gives for each setting. The name of the helper is given by the settings file alone. -/
structure Layers where
  url : List (Option String)
  module : List (Option String)
  output : List (Option FilePath)
  target : List (Option Target)
  timeout : List (Option Nat)
  helper : Script.Helper

def Layers.of (flags : CommandLine) (environment : Environment) (file : ConfigFile) : Layers where
  url := [flags.url?, environment.lookup "PROXYGEN_URL", file.url?]
  module := [flags.module?, environment.lookup "PROXYGEN_MODULE", file.module?]
  output := [flags.output?, (environment.lookup "PROXYGEN_OUTPUT").map FilePath.mk, file.output?, some defaultOutput]
  target := [flags.target?, file.target?, some .typeScript]
  timeout := [flags.timeout?, file.timeout?, some defaultTimeout]
  helper := file.helper

/-- No text is given, or one of blanks. -/
def isMissing (value : Option String) : Bool := value.all fun text => Unicode.trimmed text = ""

/-- The outcome is the one that the highest layers call for: their values, or the first objection to them. -/
structure Layers.Decide (layers : Layers) (outcome : Except Failure Resolved) : Prop where
  succeeds : (∃ resolved, outcome = .ok resolved) ↔
    isMissing (highest layers.url) = false ∧ isMissing (highest layers.module) = false ∧
      (∃ seconds, highest layers.timeout = some seconds ∧ 1 ≤ seconds) ∧ Script.isIdentifier layers.helper.name = true
  lacks_url : outcome = .error (.missingArgument "url") ↔ isMissing (highest layers.url) = true
  lacks_module : outcome = .error (.missingArgument "module") ↔
    isMissing (highest layers.url) = false ∧ isMissing (highest layers.module) = true
  zero_timeout : outcome = .error (.settings .zeroTimeout) ↔
    isMissing (highest layers.url) = false ∧ isMissing (highest layers.module) = false ∧
      highest layers.timeout = some 0
  bad_helper : outcome = .error (.settings (.helperNotIdentifier layers.helper.name)) ↔
    isMissing (highest layers.url) = false ∧ isMissing (highest layers.module) = false ∧
      highest layers.timeout ≠ some 0 ∧ Script.isIdentifier layers.helper.name = false
  values : ∀ resolved, outcome = .ok resolved →
    (highest layers.url).map Unicode.trimmed = some resolved.url ∧
      (highest layers.module).map Unicode.trimmed = some resolved.module ∧
      highest layers.output = some resolved.output ∧ highest layers.target = some resolved.target ∧
      highest layers.timeout = some resolved.timeout ∧ resolved.helper = layers.helper

/-- The layers are the same down to the first that gives a value; what lies below it may differ. -/
inductive SameAbove {α : Type} : List (Option α) → List (Option α) → Prop where
  | nil : SameAbove [] []
  | given (value : α) (lower lower' : List (Option α)) : SameAbove (some value :: lower) (some value :: lower')
  | absent {lower lower' : List (Option α)} (h : SameAbove lower lower') : SameAbove (none :: lower) (none :: lower')

structure Layers.SameAbove (layers other : Layers) : Prop where
  url : Settings.SameAbove layers.url other.url
  module : Settings.SameAbove layers.module other.module
  output : Settings.SameAbove layers.output other.output
  target : Settings.SameAbove layers.target other.target
  timeout : Settings.SameAbove layers.timeout other.timeout
  helper : layers.helper = other.helper

/-! ### The highest layer -/

section Highest

variable {α : Type}

theorem highest_cons (value : Option α) (lower : List (Option α)) :
    highest (value :: lower) = (value <|> highest lower) := by
  cases value <;> rfl

theorem SameAbove.highest_eq {layers other : List (Option α)} (h : SameAbove layers other) :
    highest layers = highest other := by
  induction h with
  | nil => rfl
  | given value => rfl
  | absent _ ih => exact ih

theorem SameAbove.head_eq {value other : Option α} {lower lower' : List (Option α)}
    (h : SameAbove (value :: lower) (other :: lower')) : value = other := by
  cases h <;> rfl

theorem highest_default (layers : List (Option α)) (default : α) :
    highest (layers ++ [some default]) = some ((highest layers).getD default) := by
  induction layers with
  | nil => rfl
  | cons value lower ih =>
      rw [List.cons_append, highest_cons, highest_cons, ih]
      cases value <;> rfl

end Highest

/-! ### The checks -/

theorem required_eq (value : Option String) (name : String) :
    required value name =
      if isMissing value then .error (.missingArgument name) else .ok (Unicode.trimmed (value.getD "")) := by
  cases value with
  | none => rfl
  | some text =>
      rw [required, isMissing, Option.map_some, Option.all_some, Option.getD_some]
      by_cases htext : Unicode.trimmed text = ""
      · rw [htext]
        rfl
      · rw [Option.filter_some_pos (by simpa using htext), if_neg (by simpa using htext)]

theorem map_trimmed_of_not_isMissing {value : Option String} (h : isMissing value = false) :
    value.map Unicode.trimmed = some (Unicode.trimmed (value.getD "")) := by
  cases value with
  | none => cases h
  | some text => rfl

/-- The outcome as the values of the highest layers call for it, one check after the other. -/
def Layers.outcome (layers : Layers) (isDryRun : Bool) : Except Failure Resolved :=
  if isMissing (highest layers.url) then .error (.missingArgument "url")
  else if isMissing (highest layers.module) then .error (.missingArgument "module")
  else if highest layers.timeout = some 0 then .error (.settings .zeroTimeout)
  else if !Script.isIdentifier layers.helper.name then .error (.settings (.helperNotIdentifier layers.helper.name))
  else .ok {
    url := Unicode.trimmed ((highest layers.url).getD "")
    module := Unicode.trimmed ((highest layers.module).getD "")
    output := (highest layers.output).getD defaultOutput
    target := (highest layers.target).getD .typeScript
    isDryRun
    timeout := (highest layers.timeout).getD defaultTimeout
    helper := layers.helper }

theorem Layers.decide_outcome {layers : Layers} {output : FilePath} {target : Target} {timeout : Nat}
    (houtput : highest layers.output = some output) (htarget : highest layers.target = some target)
    (htimeout : highest layers.timeout = some timeout) (isDryRun : Bool) :
    layers.Decide (layers.outcome isDryRun) := by
  rw [Layers.outcome]
  split_ifs with hurl hmodule hzero hhelper
  · constructor <;> simp [hurl]
  · constructor <;> simp [hurl, hmodule]
  · constructor <;> simp [hurl, hmodule, hzero]
  · constructor <;> simp_all
  · have hpositive : 1 ≤ timeout := Nat.one_le_iff_ne_zero.mpr fun h => hzero (h ▸ htimeout)
    constructor <;> simp_all [map_trimmed_of_not_isMissing]

theorem Layers.SameAbove.outcome_eq {layers other : Layers} (h : layers.SameAbove other) (isDryRun : Bool) :
    other.outcome isDryRun = layers.outcome isDryRun := by
  rw [Layers.outcome, Layers.outcome, h.url.highest_eq, h.module.highest_eq, h.output.highest_eq,
    h.target.highest_eq, h.timeout.highest_eq, h.helper]

/-! ### The environment -/

namespace CommandLine

/-- The environment gives what the arguments left open. -/
def filledFrom (flags : CommandLine) (environment : Environment) : CommandLine :=
  { flags with
    url? := flags.url? <|> environment.lookup "PROXYGEN_URL"
    module? := flags.module? <|> environment.lookup "PROXYGEN_MODULE"
    output? := flags.output? <|> (environment.lookup "PROXYGEN_OUTPUT").map FilePath.mk }

/-- An empty path is refused where it would be used. -/
def refusesOutput (flags : CommandLine) (environment : Environment) : Bool :=
  flags.output?.isNone && environment.lookup "PROXYGEN_OUTPUT" = some ""

theorem fallback_url (environment : Environment) (flags : CommandLine) :
    fallback environment "PROXYGEN_URL" .url flags.url?.isSome flags =
      .ok { flags with url? := flags.url? <|> environment.lookup "PROXYGEN_URL" } := by
  obtain ⟨url?⟩ := flags
  cases url? <;> cases hvalue : environment.lookup "PROXYGEN_URL" <;> simp [fallback, hvalue, assign, unset]

theorem fallback_module (environment : Environment) (flags : CommandLine) :
    fallback environment "PROXYGEN_MODULE" .module flags.module?.isSome flags =
      .ok { flags with module? := flags.module? <|> environment.lookup "PROXYGEN_MODULE" } := by
  obtain ⟨_, module?⟩ := flags
  cases module? <;> cases hvalue : environment.lookup "PROXYGEN_MODULE" <;>
    simp [fallback, hvalue, assign, unset]

theorem fallback_output (environment : Environment) (flags : CommandLine) :
    fallback environment "PROXYGEN_OUTPUT" .output flags.output?.isSome flags =
      if flags.refusesOutput environment then .error .invalidValue
      else .ok { flags with output? := flags.output? <|> (environment.lookup "PROXYGEN_OUTPUT").map FilePath.mk } := by
  obtain ⟨_, _, output?⟩ := flags
  cases output? with
  | some output => rfl
  | none =>
      cases hvalue : environment.lookup "PROXYGEN_OUTPUT" with
      | none => simp [fallback, hvalue, refusesOutput]
      | some value =>
          by_cases hempty : value = ""
          · simp [fallback, hvalue, refusesOutput, assign, unset, path?, hempty]
            rfl
          · simp [fallback, hvalue, refusesOutput, assign, unset, path?, hempty]

theorem filledFrom_nil (flags : CommandLine) : flags.filledFrom [] = flags := by
  obtain ⟨url?, module?, output?⟩ := flags
  cases url? <;> cases module? <;> cases output? <;> rfl

theorem parse_eq_settle (arguments : List String) (environment : Environment) :
    parse arguments environment = (Reading.takeAll {} arguments >>= Reading.settle) >>= fun flags =>
      if flags.refusesOutput environment then .error .invalidValue else .ok (flags.filledFrom environment) := by
  rw [parse, bind_assoc]
  refine bind_congr fun reading => bind_congr fun flags => ?_
  rw [fallback_url]
  show fallback environment "PROXYGEN_MODULE" .module _ _ >>= _ = _
  rw [fallback_module]
  exact fallback_output environment _

/-- The arguments alone, and then what the environment adds. -/
theorem parse_eq (arguments : List String) (environment : Environment) :
    parse arguments environment = parse arguments [] >>= fun flags =>
      if flags.refusesOutput environment then .error .invalidValue else .ok (flags.filledFrom environment) := by
  have halone : parse arguments [] = Reading.takeAll {} arguments >>= Reading.settle := by
    rw [parse_eq_settle]
    cases (Reading.takeAll {} arguments >>= Reading.settle) with
    | error refusal => rfl
    | ok flags =>
        rw [Outcome.ok_bind, filledFrom_nil, refusesOutput]
        simp
  rw [parse_eq_settle, halone]

theorem parse_eq_ok {arguments : List String} {environment : Environment} {flags : CommandLine}
    (hflags : parse arguments [] = .ok flags) (haccepted : flags.refusesOutput environment = false) :
    parse arguments environment = .ok (flags.filledFrom environment) := by
  rw [parse_eq, hflags, Outcome.ok_bind, haccepted]
  rfl

end CommandLine

/-- Merging asks the layers from the highest down. -/
theorem merge_filledFrom (flags : CommandLine) (environment : Environment) (file : ConfigFile) :
    Resolved.merge (flags.filledFrom environment) file =
      (Layers.of flags environment file).outcome flags.isDryRun := by
  have hurl : highest (Layers.of flags environment file).url =
      ((flags.filledFrom environment).url? <|> file.url?) := by
    rw [Layers.of, CommandLine.filledFrom]
    cases flags.url? <;> cases environment.lookup "PROXYGEN_URL" <;> cases file.url? <;> rfl
  have hmodule : highest (Layers.of flags environment file).module =
      ((flags.filledFrom environment).module? <|> file.module?) := by
    rw [Layers.of, CommandLine.filledFrom]
    cases flags.module? <;> cases environment.lookup "PROXYGEN_MODULE" <;> cases file.module? <;> rfl
  have houtput : highest (Layers.of flags environment file).output =
      some (((flags.filledFrom environment).output? <|> file.output?).getD defaultOutput) := by
    rw [Layers.of, CommandLine.filledFrom]
    cases flags.output? <;> cases environment.lookup "PROXYGEN_OUTPUT" <;> cases file.output? <;> rfl
  have htarget : highest (Layers.of flags environment file).target =
      some (((flags.filledFrom environment).target? <|> file.target?).getD .typeScript) := by
    rw [Layers.of, CommandLine.filledFrom]
    cases flags.target? <;> cases file.target? <;> rfl
  have htimeout : highest (Layers.of flags environment file).timeout =
      some (((flags.filledFrom environment).timeout? <|> file.timeout?).getD defaultTimeout) := by
    rw [Layers.of, CommandLine.filledFrom]
    cases flags.timeout? <;> cases file.timeout? <;> rfl
  have hhelper : (Layers.of flags environment file).helper = file.helper := rfl
  have hdryRun : flags.isDryRun = (flags.filledFrom environment).isDryRun := rfl
  rw [Layers.outcome, hurl, hmodule, houtput, htarget, htimeout, hhelper, hdryRun, Resolved.merge, required_eq,
    required_eq]
  generalize flags.filledFrom environment = line
  split_ifs <;> simp_all [bind, Except.bind]

/-- Whether an empty path is refused hangs on the highest layer that gives a path. -/
theorem refusesOutput_eq {flags : CommandLine} {environment other : Environment} {file otherFile : ConfigFile}
    (h : (Layers.of flags environment file).SameAbove (Layers.of flags other otherFile)) :
    flags.refusesOutput other = flags.refusesOutput environment := by
  have houtput := h.output
  rw [Layers.of, Layers.of] at houtput
  dsimp only at houtput
  rw [CommandLine.refusesOutput, CommandLine.refusesOutput]
  cases hflag : flags.output? with
  | some output => rfl
  | none =>
      rw [hflag] at houtput
      cases houtput with
      | absent hlower => rw [Option.map_injective (fun _ _ => FilePath.mk.inj) hlower.head_eq]

/-- Arguments that are refused are refused in every environment. Otherwise each setting is taken from the highest layer
that gives one: the arguments, the environment for three of them, the settings file, the default; of the environment
only an empty output path is refused, where the arguments give none. The values that were taken decide between success
and the first objection, and nothing below a layer that gives a value has an influence. -/
theorem settings_from_highest_layers (arguments : List String) (environment : Environment) (file : ConfigFile) :
    (∀ refusal, CommandLine.parse arguments [] = .error refusal →
      CommandLine.parse arguments environment = .error refusal) ∧
    ∀ flags, CommandLine.parse arguments [] = .ok flags →
      (flags.refusesOutput environment = true → CommandLine.parse arguments environment = .error .invalidValue) ∧
      (flags.refusesOutput environment = false → ∃ line, CommandLine.parse arguments environment = .ok line ∧
        (Layers.of flags environment file).Decide (Resolved.merge line file) ∧
        ∀ other otherFile, (Layers.of flags environment file).SameAbove (Layers.of flags other otherFile) →
          ∃ otherLine, CommandLine.parse arguments other = .ok otherLine ∧
            Resolved.merge otherLine otherFile = Resolved.merge line file) := by
  refine ⟨fun refusal hrefused => ?_, fun flags hflags => ⟨fun hrefused => ?_, fun haccepted => ?_⟩⟩
  · rw [CommandLine.parse_eq, hrefused]
    rfl
  · rw [CommandLine.parse_eq, hflags, Outcome.ok_bind, hrefused]
    rfl
  · refine ⟨_, CommandLine.parse_eq_ok hflags haccepted, ?_, fun other otherFile hsame => ?_⟩
    · rw [merge_filledFrom]
      exact Layers.decide_outcome (highest_default [_, _, _] _) (highest_default [_, _] _) (highest_default [_, _] _)
        flags.isDryRun
    · have hother : flags.refusesOutput other = false := by rw [refusesOutput_eq hsame, haccepted]
      refine ⟨_, CommandLine.parse_eq_ok hflags hother, ?_⟩
      rw [merge_filledFrom, merge_filledFrom, hsame.outcome_eq]

/-- A line that gives the module, an environment that gives the address and a path, and a file that gives all three
and a timeout. -/
def mixedArguments : List String := ["-m=app", "--dry-run"]

def mixedEnvironment : Environment := [("PROXYGEN_URL", " http://env "), ("PROXYGEN_OUTPUT", "out")]

def mixedFile : ConfigFile := { url? := some "http://file", module? := some " ", output? := some ⟨"o"⟩, timeout? := some 5 }

theorem mixed_settings_from_highest_layers :
    ∃ line, CommandLine.parse mixedArguments mixedEnvironment = .ok line ∧
      (∃ resolved, Resolved.merge line mixedFile = .ok resolved ∧ resolved.url = "http://env" ∧
        resolved.module = "app" ∧ resolved.output = ⟨"out"⟩ ∧ resolved.timeout = 5) ∧
      ∃ otherLine, CommandLine.parse mixedArguments (("PROXYGEN_MODULE", "") :: mixedEnvironment) = .ok otherLine ∧
        Resolved.merge otherLine { timeout? := some 5 } = Resolved.merge line mixedFile := by
  obtain ⟨-, haccepted⟩ := settings_from_highest_layers mixedArguments mixedEnvironment mixedFile
  obtain ⟨-, hlayers⟩ := haccepted { module? := some "app", isDryRun := true } (by decide)
  obtain ⟨line, hline, hdecide, hsame⟩ := hlayers (by decide)
  refine ⟨line, hline, ?_, hsame _ _ ?_⟩
  · obtain ⟨resolved, hresolved⟩ := hdecide.succeeds.mpr ⟨by decide, by decide, ⟨5, by decide, by decide⟩, by decide⟩
    obtain ⟨hurl, hmodule, houtput, -, htimeout, -⟩ := hdecide.values resolved hresolved
    exact ⟨resolved, hresolved, Option.some.inj (hurl.symm.trans (by decide)),
      Option.some.inj (hmodule.symm.trans (by decide)), Option.some.inj (houtput.symm.trans (by decide)),
      Option.some.inj (htimeout.symm.trans (by decide))⟩
  · have houtput (lower lower' : List (Option FilePath)) :
        SameAbove (none :: some ⟨"out"⟩ :: lower) (none :: some ⟨"out"⟩ :: lower') := .absent (.given _ _ _)
    exact {
      url := .absent (.given " http://env " _ _)
      module := .given "app" _ _
      output := houtput _ _
      target := .absent (.absent (.given Target.typeScript _ _))
      timeout := .absent (.given 5 _ _)
      helper := rfl }

end ApiProxy.Settings
