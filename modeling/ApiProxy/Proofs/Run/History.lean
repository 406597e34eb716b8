import ApiProxy.Proofs.Generation.Success
import ApiProxy.Proofs.Run.Recording

/-! The history of a run: the calls of its writer, its events and its summary, told together. Files are written
only after all of them are made, in the order in which they were staged, and the run ends with the first
failure. -/

namespace ApiProxy

variable {σ τ : Type} {request : RunRequest} {selection : Selection} {output : StagedOutput}

/-- The module that a request selects, and the files that are made for it. -/
def RunRequest.staged (request : RunRequest) (fetched : Except Failure Schema) :
    Except Failure (Selection × StagedOutput) := do
  let schema ← fetched
  let selection ← schema.select request.module
  let output ← (generate request.helper request.output selection).outcome
  .ok (selection, output)

/-- A run that fails before it comes to writing. -/
inductive RunRequest.Fails (request : RunRequest) (fetched : Except Failure Schema) (failure : Failure) :
    Prop where
  | fetch (h : fetched = .error failure)
  | select {schema : Schema} (hschema : fetched = .ok schema)
      (h : schema.select request.module = .error failure)
  | generate {schema : Schema} {selection : Selection} (hschema : fetched = .ok schema)
      (hselect : schema.select request.module = .ok selection)
      (h : (ApiProxy.generate request.helper request.output selection).outcome = .error failure)

/-- The event that ends a run that succeeds. -/
def completion : Except Failure Summary → List Event
  | .ok summary => [.completed summary.module summary.output.size]
  | .error _ => []

structure RunHistory (request : RunRequest) (fetched : Except Failure Schema) (calls : List WriteCall)
    (result : Traced Summary) : Prop where
  fails_or_staged : (∃ failure, request.Fails fetched failure) ∨
    ∃ selection output, request.staged fetched = .ok (selection, output)
  fails : ∀ failure, request.Fails fetched failure → calls = [] ∧ result.outcome = .error failure
  dryRun : request.isDryRun = true → calls = []
  dryRun_ok : ∀ selection output, request.staged fetched = .ok (selection, output) → request.isDryRun = true →
    failure? result.outcome = none
  writes : ∀ selection output, request.staged fetched = .ok (selection, output) → request.isDryRun = false →
    WritesInTurn output.files calls (failure? result.outcome)
  events : ∃ early, (∀ event ∈ early, Event.IsEarly event) ∧ result.events =
    early ++ (calls.filterMap WriteCall.written?).map .fileWritten ++ completion result.outcome
  summary : ∀ summary, result.outcome = .ok summary → ∃ selection,
    request.staged fetched = .ok (selection, summary.output) ∧ summary.module = selection.key ∧
      summary.controllers = selection.module.controllers.entries.length ∧
      summary.files = calls.filterMap WriteCall.written? ∧
      summary.files = if request.isDryRun then [] else summary.output.files.map OutputFile.path

/-! ### Before the writing -/

theorem outcome_prepare (request : RunRequest) (location : String) (fetched : Except Failure Schema) :
    (request.prepare location fetched).outcome = request.staged fetched := by
  simp only [RunRequest.prepare, Traced.outcome_bind, Traced.outcome_report, Traced.outcome_ofExcept,
    Traced.outcome_pure]
  rfl

theorem staged_eq_error_iff {fetched : Except Failure Schema} {failure : Failure} :
    request.staged fetched = .error failure ↔ request.Fails fetched failure := by
  constructor
  · intro h
    cases fetched with
    | error other =>
        cases h
        exact .fetch rfl
    | ok schema =>
        rw [RunRequest.staged] at h
        cases hselect : schema.select request.module with
        | error other =>
            simp only [hselect, bind, Except.bind] at h
            cases h
            exact .select rfl hselect
        | ok selection =>
            cases hgenerate : (generate request.helper request.output selection).outcome with
            | error other =>
                simp only [hselect, hgenerate, bind, Except.bind] at h
                cases h
                exact .generate rfl hselect hgenerate
            | ok output =>
                simp only [hselect, hgenerate, bind, Except.bind] at h
                cases h
  · intro h
    cases h with
    | fetch h =>
        rw [RunRequest.staged, h]
        rfl
    | select hschema h => simp only [RunRequest.staged, hschema, h, bind, Except.bind]
    | generate hschema hselect h => simp only [RunRequest.staged, hschema, hselect, h, bind, Except.bind]

theorem reporting_prepare (request : RunRequest) (location : String) (fetched : Except Failure Schema) :
    (request.prepare location fetched).Reporting Event.IsEarly := by
  refine (Traced.reporting_report trivial).bind fun _ => ?_
  refine (Traced.reporting_ofExcept _).bind fun schema => ?_
  refine (Traced.reporting_ofExcept _).bind fun selection => ?_
  refine (Traced.reporting_report trivial).bind fun _ => ?_
  refine (reporting_generateFrom _ _ _ _ _).bind fun output => ?_
  exact Traced.reporting_pure _

/-! ### The end of a run -/

/-- How a run ends whose files are made. -/
def concluded (prepared : Traced (Selection × StagedOutput)) (selection : Selection) (output : StagedOutput)
    (written : Traced (List FilePath)) : Traced Summary := do
  let _ ← prepared
  let files ← written
  Traced.report (.completed selection.key output.size)
  pure ⟨selection.key, selection.module.controllers.entries.length, files, output⟩

theorem outcome_concluded {prepared : Traced (Selection × StagedOutput)} {written : Traced (List FilePath)}
    (h : prepared.outcome = .ok (selection, output)) :
    (concluded prepared selection output written).outcome = written.outcome.map fun files =>
      ⟨selection.key, selection.module.controllers.entries.length, files, output⟩ := by
  rw [concluded, Traced.outcome_bind, h]
  show (written >>= _).outcome = _
  rw [Traced.outcome_bind]
  cases written.outcome <;> rfl

theorem events_concluded {prepared : Traced (Selection × StagedOutput)} {written : Traced (List FilePath)}
    (h : prepared.outcome = .ok (selection, output)) :
    (concluded prepared selection output written).events = prepared.events ++ written.events ++
      completion (concluded prepared selection output written).outcome := by
  rw [outcome_concluded h, concluded, Traced.events_bind_of_ok h, List.append_assoc]
  congr 1
  cases hwritten : written.outcome with
  | error failure => exact (Traced.events_bind_of_error hwritten).trans (List.append_nil _).symm
  | ok files => exact Traced.events_bind_of_ok hwritten

variable {location : String} {fetch : StateM τ (Except Failure Schema)} {write : Writer τ} {world : τ}

theorem run_of_error {failure : Failure}
    (h : (request.prepare location (fetch world).1).outcome = .error failure) :
    request.run location fetch write world =
      (⟨(request.prepare location (fetch world).1).notices, .error failure⟩, (fetch world).2) := by
  rw [RunRequest.run, stateM_bind_apply, h]
  rfl

theorem run_of_dryRun (h : (request.prepare location (fetch world).1).outcome = .ok (selection, output))
    (hdry : request.isDryRun = true) :
    request.run location fetch write world =
      (concluded (request.prepare location (fetch world).1) selection output (pure []), (fetch world).2) := by
  rw [RunRequest.run, stateM_bind_apply, h, hdry]
  rfl

theorem run_of_ok (h : (request.prepare location (fetch world).1).outcome = .ok (selection, output))
    (hdry : request.isDryRun = false) :
    request.run location fetch write world =
      (concluded (request.prepare location (fetch world).1) selection output
        (writeAll write output.files (fetch world).2).1, (writeAll write output.files (fetch world).2).2) := by
  rw [RunRequest.run, stateM_bind_apply, h, hdry]
  rfl

/-! ### Whole runs -/

theorem RunHistory.of_error {fetched : Except Failure Schema} {failure : Failure} {result : Traced Summary}
    (hstaged : request.staged fetched = .error failure) (houtcome : result.outcome = .error failure)
    (hearly : result.Reporting Event.IsEarly) : RunHistory request fetched [] result where
  fails_or_staged := Or.inl ⟨failure, staged_eq_error_iff.mp hstaged⟩
  fails other h := by
    cases (staged_eq_error_iff.mpr h).symm.trans hstaged
    exact ⟨rfl, houtcome⟩
  dryRun _ := rfl
  dryRun_ok selection output h _ := by
    rw [hstaged] at h
    cases h
  writes selection output h _ := by
    rw [hstaged] at h
    cases h
  events := by
    refine ⟨result.events, hearly, ?_⟩
    rw [houtcome]
    simp [completion]
  summary summary h := by
    rw [houtcome] at h
    cases h

theorem RunHistory.of_ok {fetched : Except Failure Schema} {prepared : Traced (Selection × StagedOutput)}
    {written : Traced (List FilePath)} {calls : List WriteCall}
    (hstaged : request.staged fetched = .ok (selection, output))
    (hprepared : prepared.outcome = .ok (selection, output)) (hearly : prepared.Reporting Event.IsEarly)
    (hdry : request.isDryRun = true → calls = [] ∧ written.outcome = .ok [])
    (hwrites : request.isDryRun = false → WritesInTurn output.files calls (failure? written.outcome))
    (hevents : written.events = (calls.filterMap WriteCall.written?).map .fileWritten)
    (hpaths : ∀ paths, written.outcome = .ok paths → paths = calls.filterMap WriteCall.written?) :
    RunHistory request fetched calls (concluded prepared selection output written) where
  fails_or_staged := Or.inr ⟨selection, output, hstaged⟩
  fails failure h := by
    cases (staged_eq_error_iff.mpr h).symm.trans hstaged
  dryRun h := (hdry h).1
  dryRun_ok _ _ _ h := by
    rw [outcome_concluded hprepared, (hdry h).2]
    rfl
  writes _ _ h hwriting := by
    cases hstaged.symm.trans h
    rw [outcome_concluded hprepared, Outcome.failure?_map]
    exact hwrites hwriting
  events := ⟨prepared.events, hearly, hevents ▸ events_concluded hprepared⟩
  summary summary h := by
    rw [outcome_concluded hprepared] at h
    obtain ⟨files, hfiles, rfl⟩ := Outcome.map_eq_ok_iff.mp h
    refine ⟨selection, hstaged, rfl, rfl, hpaths files hfiles, ?_⟩
    rw [hpaths files hfiles]
    cases hrequest : request.isDryRun with
    | true =>
        rw [(hdry hrequest).1]
        rfl
    | false =>
        have hturn := hwrites hrequest
        rw [hfiles] at hturn
        exact hturn.complete

theorem run_recorded (request : RunRequest) (location : String) (fetch : StateM σ (Except Failure Schema))
    (write : Writer σ) (state : σ) :
    ∃ calls, request.run location (unrecorded fetch) (recording write) (state, []) =
        ((request.run location fetch write state).1, ((request.run location fetch write state).2, calls)) ∧
      RunHistory request (fetch state).1 calls (request.run location fetch write state).1 := by
  have hearly := reporting_prepare request location (fetch state).1
  cases hstaged : request.staged (fetch state).1 with
  | error failure =>
      have hprepared := (outcome_prepare request location (fetch state).1).trans hstaged
      have hrecorded : request.run location (unrecorded fetch) (recording write) (state, []) = _ :=
        run_of_error hprepared
      rw [hrecorded, run_of_error hprepared]
      exact ⟨[], rfl, .of_error hstaged rfl hearly⟩
  | ok staged =>
      have hprepared := (outcome_prepare request location (fetch state).1).trans hstaged
      cases hdry : request.isDryRun with
      | true =>
          have hrecorded : request.run location (unrecorded fetch) (recording write) (state, []) = _ :=
            run_of_dryRun hprepared hdry
          rw [hrecorded, run_of_dryRun hprepared hdry]
          refine ⟨[], rfl, .of_ok hstaged hprepared hearly (fun _ => ⟨rfl, rfl⟩) ?_ rfl ?_⟩
          · intro hwriting
            cases hdry.symm.trans hwriting
          · intro paths hpaths
            cases hpaths
            rfl
      | false =>
          have hrecorded : request.run location (unrecorded fetch) (recording write) (state, []) = _ :=
            run_of_ok hprepared hdry
          obtain ⟨calls, hcalls, hwritten⟩ := writeAll_recording write staged.2.files (fetch state).2 []
          have hworld : (unrecorded fetch (state, [])).2 = ((fetch state).2, []) := rfl
          rw [hrecorded, hworld, hcalls, run_of_ok hprepared hdry]
          refine ⟨calls, rfl, .of_ok hstaged hprepared hearly ?_ (fun _ => hwritten.inTurn) hwritten.events
            hwritten.paths⟩
          intro hwriting
          cases hdry.symm.trans hwriting

/-- A run that succeeds would have succeeded without writing, with the same files. -/
theorem dryRun_of_run {summary : Summary}
    (h : (request.run location fetch write world).1.outcome = .ok summary) :
    ({ request with isDryRun := true }.run location fetch write world).1.outcome =
      .ok { summary with files := [] } := by
  cases hprepared : (request.prepare location (fetch world).1).outcome with
  | error failure =>
      rw [run_of_error hprepared] at h
      cases h
  | ok staged =>
      have hconcluded : ∃ written, (request.run location fetch write world).1 =
          concluded (request.prepare location (fetch world).1) staged.1 staged.2 written := by
        cases hdry : request.isDryRun with
        | true => exact ⟨_, congrArg Prod.fst (run_of_dryRun hprepared hdry)⟩
        | false => exact ⟨_, congrArg Prod.fst (run_of_ok hprepared hdry)⟩
      obtain ⟨written, hrun⟩ := hconcluded
      rw [hrun, outcome_concluded hprepared] at h
      obtain ⟨files, _, rfl⟩ := Outcome.map_eq_ok_iff.mp h
      have hdryRun : { request with isDryRun := true }.run location fetch write world = _ :=
        run_of_dryRun hprepared rfl
      rw [hdryRun]
      exact outcome_concluded hprepared

/-- Whatever the schema, the request and the writer are, and wherever it fails, a run has one history: it writes
nothing before all files are made and nothing in a dry run, it writes the files in the order in which they were
staged until one of the writes fails, and its events and its summary tell of just these writes. A dry run of a
request that can be carried out tells of the same files. -/
theorem run_history (request : RunRequest) (location : String) (fetch : StateM σ (Except Failure Schema))
    (write : Writer σ) (state : σ) :
    (∃ calls, request.run location (unrecorded fetch) (recording write) (state, []) =
        ((request.run location fetch write state).1, ((request.run location fetch write state).2, calls)) ∧
      RunHistory request (fetch state).1 calls (request.run location fetch write state).1) ∧
    ∀ summary, (request.run location fetch write state).1.outcome = .ok summary →
      ({ request with isDryRun := true }.run location fetch write state).1.outcome =
        .ok { summary with files := [] } :=
  ⟨run_recorded request location fetch write state, fun _ h => dryRun_of_run h⟩

/-- A module with one controller, which asks for nothing. -/
def userController : Controller := ⟨"User", "user", []⟩

def userSelection : Selection where
  key := "app"
  module := ⟨"App", ⟨[("User", userController)], by decide⟩⟩
  types := ⟨[], by decide⟩

def userSchema : Schema where
  modules := ⟨[(userSelection.key, userSelection.module)], by decide⟩
  types := userSelection.types

def userRequest : RunRequest := ⟨"App", ⟨"out"⟩, false, {}⟩

/-- A writer that takes everything and counts its calls. -/
def countingWriter : Writer Nat := fun _ _ count => (.ok (), count + 1)

theorem generable_userController : userSelection.Generable userController := by
  have hnone (id : String) : ¬userSelection.types.Reaches userController.typeIds id := by
    intro hreached
    induction hreached with
    | root hroot => cases hroot
    | mention _ _ _ ih => exact ih
  refine ⟨?_, ?_, ?_, ?_, ⟨'A', by decide, by decide⟩, ⟨'u', by decide, by decide⟩⟩
  · exact fun id hreached => absurd hreached (hnone id)
  · exact fun id kind hreached => absurd hreached (hnone id)
  · exact fun id hreached => absurd hreached (hnone id)
  · exact List.forall_mem_nil _

theorem userRequest_succeeds :
    ∃ summary, (userRequest.run "here" (pure (.ok userSchema)) countingWriter 0).1.outcome = .ok summary := by
  have hselect : userSchema.select userRequest.module = .ok userSelection := by decide +kernel
  have hgenerable : ∀ controller ∈ userSelection.module.controllers.entries.map Prod.snd,
      userSelection.Generable controller := by
    intro controller hcontroller
    cases List.mem_singleton.mp hcontroller
    exact generable_userController
  obtain ⟨output, houtput⟩ :=
    (exists_output_iff userRequest.helper userRequest.output userSelection).mpr hgenerable
  have hstaged : userRequest.staged (.ok userSchema) = .ok (userSelection, output) := by
    simp only [RunRequest.staged, hselect, houtput, bind, Except.bind]
  have hprepared := (outcome_prepare userRequest "here" (.ok userSchema)).trans hstaged
  obtain ⟨paths, hpaths⟩ := writeAll_succeeds countingWriter output.files 0 fun _ _ _ => rfl
  have hrun : userRequest.run "here" (pure (.ok userSchema)) countingWriter 0 = _ := run_of_ok hprepared rfl
  refine ⟨⟨userSelection.key, 1, paths, output⟩, ?_⟩
  rw [hrun]
  exact (outcome_concluded hprepared).trans (congrArg (Except.map _) hpaths)

theorem run_history_user : ∃ summary calls,
    (userRequest.run "here" (pure (.ok userSchema)) countingWriter 0).1.outcome = .ok summary ∧
      RunHistory userRequest (.ok userSchema) calls
        (userRequest.run "here" (pure (.ok userSchema)) countingWriter 0).1 ∧
      ({ userRequest with isDryRun := true }.run "here" (pure (.ok userSchema)) countingWriter 0).1.outcome =
        .ok { summary with files := [] } := by
  obtain ⟨summary, hsummary⟩ := userRequest_succeeds
  obtain ⟨⟨calls, _, hhistory⟩, hdry⟩ :=
    run_history userRequest "here" (pure (.ok userSchema)) countingWriter 0
  exact ⟨summary, calls, hsummary, hhistory, hdry summary hsummary⟩

end ApiProxy
