import ApiProxy.Proofs.Events
import ApiProxy.Run

/-! A writer that keeps a record of its calls. It answers as the writer it records, which may be any function of a
state, so what is proved of the record holds of the calls that any writer gets. -/

namespace ApiProxy

variable {σ α : Type}

/-- A call of the writer, with the answer it got. -/
structure WriteCall where
  path : FilePath
  content : String
  answer : Except Failure Unit

/-- The path that a call has written. -/
def WriteCall.written? (call : WriteCall) : Option FilePath :=
  match call.answer with
  | .ok () => some call.path
  | .error _ => none

abbrev Writer (σ : Type) := FilePath → String → StateM σ (Except Failure Unit)

def unrecorded (action : StateM σ α) : StateM (σ × List WriteCall) α := fun world =>
  ((action world.1).1, ((action world.1).2, world.2))

def recording (write : Writer σ) : Writer (σ × List WriteCall) := fun path content world =>
  ((write path content world.1).1,
    ((write path content world.1).2, world.2 ++ [⟨path, content, (write path content world.1).1⟩]))

/-- The calls write the files in turn, up to the first one that fails, with the failure of that one. -/
inductive WritesInTurn : List OutputFile → List WriteCall → Option Failure → Prop where
  | done : WritesInTurn [] [] none
  | failed {file : OutputFile} {files : List OutputFile} {failure : Failure} :
      WritesInTurn (file :: files) [⟨file.path, file.content, .error failure⟩] (some failure)
  | written {file : OutputFile} {files : List OutputFile} {calls : List WriteCall} {report : Option Failure}
      (hrest : WritesInTurn files calls report) :
      WritesInTurn (file :: files) (⟨file.path, file.content, .ok ()⟩ :: calls) report

theorem WritesInTurn.complete {files : List OutputFile} {calls : List WriteCall}
    (h : WritesInTurn files calls none) : calls.filterMap WriteCall.written? = files.map OutputFile.path := by
  generalize hreport : (none : Option Failure) = report at h
  induction h with
  | done => rfl
  | failed => cases hreport
  | written _ ih => exact congrArg (List.cons _) (ih hreport)

/-! ### Writing all files -/

section writeAll

variable {τ : Type} (write : Writer τ) (file : OutputFile) (files : List OutputFile) (world : τ)

theorem writeAll_of_error {failure : Failure} (h : (write file.path file.content world).1 = .error failure) :
    writeAll write (file :: files) world =
      (.ofExcept (.error failure), (write file.path file.content world).2) := by
  rw [writeAll, stateM_bind_apply, h]
  rfl

theorem writeAll_of_ok (h : (write file.path file.content world).1 = .ok ()) :
    writeAll write (file :: files) world =
      ((do
        Traced.report (.fileWritten file.path)
        let paths ← (writeAll write files (write file.path file.content world).2).1
        pure (file.path :: paths)),
        (writeAll write files (write file.path file.content world).2).2) := by
  rw [writeAll, stateM_bind_apply, h]
  rfl

theorem writeAll_succeeds (hwrite : ∀ path content world, (write path content world).1 = .ok ()) :
    ∃ paths, (writeAll write files world).1.outcome = .ok paths := by
  induction files generalizing world with
  | nil => exact ⟨[], rfl⟩
  | cons file files ih =>
      obtain ⟨paths, hpaths⟩ := ih (write file.path file.content world).2
      rw [writeAll_of_ok write file files world (hwrite file.path file.content world)]
      refine ⟨file.path :: paths, ?_⟩
      rw [Traced.outcome_bind, Traced.outcome_report]
      show (_ >>= fun paths => pure (file.path :: paths) : Traced (List FilePath)).outcome = _
      rw [Traced.outcome_bind, hpaths]
      rfl

/-- Writing that succeeds has written the first file and succeeds with the others. -/
theorem writeAll_cons_eq_ok {paths : List FilePath}
    (h : (writeAll write (file :: files) world).1.outcome = .ok paths) :
    (write file.path file.content world).1 = .ok () ∧
      ∃ others, (writeAll write files (write file.path file.content world).2).1.outcome = .ok others ∧
        (writeAll write (file :: files) world).2 = (writeAll write files (write file.path file.content world).2).2 := by
  cases hanswer : (write file.path file.content world).1 with
  | error failure =>
      rw [writeAll_of_error write file files world hanswer] at h
      cases h
  | ok done =>
      rw [writeAll_of_ok write file files world hanswer] at h ⊢
      dsimp only at h
      rw [Traced.outcome_bind, Traced.outcome_report, Outcome.ok_bind, Traced.outcome_bind] at h
      obtain ⟨others, hothers, _⟩ := Outcome.bind_eq_ok_iff.mp h
      exact ⟨rfl, others, hothers, rfl⟩

end writeAll

/-- What the writing of files comes to when every one of them is written. -/
def allWritten : List OutputFile → Traced (List FilePath)
  | [] => pure []
  | file :: files => do
    Traced.report (.fileWritten file.path)
    let paths ← allWritten files
    pure (file.path :: paths)

theorem writeAll_eq_allWritten {τ : Type} (write : Writer τ) {files : List OutputFile} {world : τ}
    {paths : List FilePath} (h : (writeAll write files world).1.outcome = .ok paths) :
    (writeAll write files world).1 = allWritten files := by
  induction files generalizing world paths with
  | nil => rfl
  | cons file files ih =>
      obtain ⟨hanswer, others, hothers, _⟩ := writeAll_cons_eq_ok write file files world h
      rw [writeAll_of_ok write file files world hanswer, ih hothers]
      rfl

/-- What the writing of files comes to: the calls it makes, and the events and paths that go with them. -/
structure WritingResult (files : List OutputFile) (calls : List WriteCall) (traced : Traced (List FilePath)) :
    Prop where
  inTurn : WritesInTurn files calls (failure? traced.outcome)
  events : traced.events = (calls.filterMap WriteCall.written?).map .fileWritten
  paths : ∀ paths, traced.outcome = .ok paths → paths = calls.filterMap WriteCall.written?

theorem WritingResult.failed {file : OutputFile} {files : List OutputFile} {failure : Failure} :
    WritingResult (file :: files) [⟨file.path, file.content, .error failure⟩] (.ofExcept (.error failure)) := by
  refine ⟨.failed, rfl, ?_⟩
  intro paths hpaths
  cases hpaths

theorem WritingResult.cons {file : OutputFile} {files : List OutputFile} {calls : List WriteCall}
    {traced : Traced (List FilePath)} (h : WritingResult files calls traced) :
    WritingResult (file :: files) (⟨file.path, file.content, .ok ()⟩ :: calls) (do
      Traced.report (.fileWritten file.path)
      let paths ← traced
      pure (file.path :: paths)) := by
  have hreported : (Traced.report (.fileWritten file.path)).outcome = .ok () := rfl
  have houtcome : (do
      Traced.report (.fileWritten file.path)
      let paths ← traced
      pure (file.path :: paths) : Traced (List FilePath)).outcome = traced.outcome.map (List.cons file.path) := by
    rw [Traced.outcome_bind, hreported]
    show (traced >>= fun paths => pure (file.path :: paths)).outcome = _
    rw [Traced.outcome_bind]
    cases traced.outcome <;> rfl
  refine ⟨?_, ?_, ?_⟩
  · rw [houtcome, Outcome.failure?_map]
    exact .written h.inTurn
  · rw [Traced.events_bind_of_ok hreported, Traced.events_bind_pure, h.events]
    rfl
  · intro paths hpaths
    obtain ⟨others, hothers, rfl⟩ := Outcome.map_eq_ok_iff.mp (houtcome.symm.trans hpaths)
    exact congrArg (List.cons file.path) (h.paths others hothers)

/-- Recording changes neither the answers nor the state, and the record is what the writing comes to. -/
theorem writeAll_recording (write : Writer σ) (files : List OutputFile) (state : σ) (earlier : List WriteCall) :
    ∃ calls, writeAll (recording write) files (state, earlier) =
      ((writeAll write files state).1, ((writeAll write files state).2, earlier ++ calls)) ∧
      WritingResult files calls (writeAll write files state).1 := by
  -- each call is added to the record so far, so the record is general in the induction
  induction files generalizing state earlier with
  | nil =>
      refine ⟨[], ?_, .done, rfl, ?_⟩
      · rw [List.append_nil]
        rfl
      intro paths hpaths
      cases hpaths
      rfl
  | cons file files ih =>
      cases hanswer : (write file.path file.content state).1 with
      | error failure =>
          have hrecorded : (recording write file.path file.content (state, earlier)).1 = .error failure :=
            hanswer
          refine ⟨[⟨file.path, file.content, .error failure⟩], ?_, ?_⟩
          · rw [writeAll_of_error (recording write) file files (state, earlier) hrecorded,
              writeAll_of_error write file files state hanswer, ← hanswer]
            rfl
          · rw [writeAll_of_error write file files state hanswer]
            exact .failed
      | ok done =>
          have hrecorded : (recording write file.path file.content (state, earlier)).1 = .ok () := hanswer
          obtain ⟨calls, hcalls, hwritten⟩ := ih (write file.path file.content state).2
            (earlier ++ [⟨file.path, file.content, .ok ()⟩])
          have hnext : (recording write file.path file.content (state, earlier)).2 =
              ((write file.path file.content state).2, earlier ++ [⟨file.path, file.content, .ok ()⟩]) := by
            rw [recording, hanswer]
          refine ⟨⟨file.path, file.content, .ok ()⟩ :: calls, ?_, ?_⟩
          · rw [writeAll_of_ok (recording write) file files (state, earlier) hrecorded, hnext, hcalls,
              writeAll_of_ok write file files state hanswer, List.append_assoc]
            rfl
          · rw [writeAll_of_ok write file files state hanswer]
            exact hwritten.cons

end ApiProxy
