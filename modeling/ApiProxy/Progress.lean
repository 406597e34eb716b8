import ApiProxy.Failure
import ApiProxy.FilePath

/-! What a run tells while it goes on. The steps of a run are events; a parameter that finds no place in its
URL is a notice of its own. Each notice becomes one record of the log. -/

namespace ApiProxy

/-- The two files that are made for a controller. -/
inductive FileKind where
  | model
  | api
deriving DecidableEq, Repr

def FileKind.all : List FileKind := [model, api]

def FileKind.name : FileKind → String
  | model => "model"
  | api => "api"

inductive Event where
  | fetchingSchema (url : String)
  | moduleSelected (module : String) (controllers : Nat)
  | controllerStarted (controller : String)
  | fileGenerated (controller : String) (kind : FileKind) (path : FilePath)
  | pathCollision (path : FilePath) (previous controller : String)
  | fileWritten (path : FilePath)
  | completed (module : String) (files : Nat)
deriving DecidableEq, Repr

inductive Notice where
  | event (step : Event)
  | unplacedParameter (controller action parameter : String)
deriving DecidableEq, Repr

def Notice.event? : Notice → Option Event
  | event step => some step
  | unplacedParameter .. => none

inductive Level where
  | info
  | warn
deriving DecidableEq, Repr

def Level.name : Level → String
  | info => "INFO"
  | warn => "WARN"

inductive FieldValue where
  | text (value : String)
  | count (value : Nat)
deriving DecidableEq, Repr

structure LogRecord where
  level : Level
  message : String
  fields : List (String × FieldValue)
deriving DecidableEq, Repr

def Event.record : Event → LogRecord
  | fetchingSchema url => ⟨.info, "Downloading API definition", [("url", .text url)]⟩
  | moduleSelected module controllers =>
    ⟨.info, "Generating proxies for module", [("module", .text module), ("controllers", .count controllers)]⟩
  | controllerStarted controller => ⟨.info, "Generating controller", [("controller", .text controller)]⟩
  | fileGenerated controller kind path =>
    ⟨.info, "Generated script",
      [("controller", .text controller), ("kind", .text kind.name), ("path", .text path.text)]⟩
  | pathCollision path previous controller =>
    ⟨.warn, "Output path already generated by another controller; overwriting",
      [("path", .text path.text), ("previous", .text previous), ("controller", .text controller)]⟩
  | fileWritten path => ⟨.info, "Wrote file", [("path", .text path.text)]⟩
  | completed module files =>
    ⟨.info, "Generation completed", [("module", .text module), ("files", .count files)]⟩

def Notice.record : Notice → LogRecord
  | event step => step.record
  | unplacedParameter controller action parameter =>
    ⟨.warn, "Path parameter has no placeholder in the URL template",
      [("controller", .text controller), ("action", .text action), ("parameter", .text parameter)]⟩

/-- A computation that may fail, with the notices it gave until it ended. -/
structure Traced (α : Type) where
  notices : List Notice
  outcome : Except Failure α

namespace Traced

variable {α β : Type}

def ofExcept (outcome : Except Failure α) : Traced α := ⟨[], outcome⟩

def notify (notice : Notice) : Traced Unit := ⟨[notice], .ok ()⟩

def report (event : Event) : Traced Unit := notify (.event event)

/-- The second computation runs, and its notices follow, only if the first one succeeds. -/
def andThen (first : Traced α) (next : α → Traced β) : Traced β :=
  match first.outcome with
  | .ok value => ⟨first.notices ++ (next value).notices, (next value).outcome⟩
  | .error failure => ⟨first.notices, .error failure⟩

instance : Monad Traced where
  pure value := ofExcept (.ok value)
  bind := andThen

def events (traced : Traced α) : List Event := traced.notices.filterMap Notice.event?

theorem ext {a b : Traced α} (hnotices : a.notices = b.notices) (houtcome : a.outcome = b.outcome) : a = b := by
  cases a; cases b; cases hnotices; cases houtcome; rfl

theorem andThen_of_ok {first : Traced α} {next : α → Traced β} {value : α} (h : first.outcome = .ok value) :
    first.andThen next = ⟨first.notices ++ (next value).notices, (next value).outcome⟩ := by
  simp [andThen, h]

theorem andThen_of_error {first : Traced α} {next : α → Traced β} {failure : Failure}
    (h : first.outcome = .error failure) : first.andThen next = ⟨first.notices, .error failure⟩ := by
  simp [andThen, h]

theorem andThen_ofExcept (first : Traced α) : (first.andThen fun value => ofExcept (.ok value)) = first := by
  cases h : first.outcome with
  | ok value => exact (andThen_of_ok h).trans (ext (by simp [ofExcept]) (by simp [ofExcept, h]))
  | error failure => exact (andThen_of_error h).trans (ext rfl h.symm)

theorem andThen_assoc {γ : Type} (first : Traced α) (next : α → Traced β) (last : β → Traced γ) :
    (first.andThen next).andThen last = first.andThen fun value => (next value).andThen last := by
  cases h : first.outcome with
  | error failure => rw [andThen_of_error h, andThen_of_error h, andThen_of_error rfl]
  | ok value =>
    rw [andThen_of_ok h, andThen_of_ok h]
    cases h' : (next value).outcome <;> simp [andThen, h', List.append_assoc]

instance : LawfulMonad Traced :=
  LawfulMonad.mk' Traced andThen_ofExcept (fun _ _ => rfl) andThen_assoc

end Traced

end ApiProxy
