import ApiProxy.Proofs.Events
import ApiProxy.Proofs.Generation.Places
import ApiProxy.Proofs.OrderedMap

/-! The events of a generation and the files that it leaves tell the same story. Controllers whose groups are the same
in kebab case share a directory. A file takes the place that the first of them made for it, the last of them fills it,
and each in between is told of the one before it. The staged files are those of a map from directories to the
controller that had the directory last, each entry spelled out as two files; one controller more puts one entry into
that map, and the predecessor that it reports is the entry that was there. -/

namespace ApiProxy

/-- The name of the directory that the files of a controller go to. -/
def Controller.directory (controller : Controller) : String := kebabCase controller.groupName

/-- A controller and what was made for it. -/
abbrev Made := Controller × ControllerFiles

namespace Made

/-- The two files of a controller, each under its path. -/
def staged (pair : Made) : List (FilePath × OutputFile) :=
  [(pair.2.paths.model, pair.2.modelFile pair.1), (pair.2.paths.api, pair.2.apiFile pair.1)]

/-- The latest controller that has the directory. -/
def latest? (made : List Made) (directory : String) : Option Made :=
  made.reverse.find? fun pair => pair.1.directory = directory

/-- The directories of the controllers, each where it comes first. -/
def directories (made : List Made) : List String := (made.map fun pair => pair.1.directory).eraseDups

/-- The files that stay: those of the latest controller of each directory, in the order of the directories. -/
def remaining (made : List Made) : List (FilePath × OutputFile) :=
  ((directories made).filterMap (latest? made)).flatMap staged

/-! ### The events -/

/-- A file is reported, and then the controller whose file it replaces, if an earlier one has the directory. -/
def fileStory (earlier : List Made) (controller : Controller) (kind : FileKind) (path : FilePath) : List Event :=
  .fileGenerated controller.name kind path ::
    ((latest? earlier controller.directory).map fun previous =>
      Event.pathCollision path previous.1.name controller.name).toList

def controllerStory (earlier : List Made) (pair : Made) : List Event :=
  .controllerStarted pair.1.name ::
    (fileStory earlier pair.1 .model pair.2.paths.model ++ fileStory earlier pair.1 .api pair.2.paths.api)

/-- The events of the controllers in turn, behind the earlier ones. -/
def story (earlier : List Made) : List Made → List Event
  | [] => []
  | pair :: made => controllerStory earlier pair ++ story (earlier ++ [pair]) made

end Made

def Event.isGenerated : Event → Bool
  | .fileGenerated .. => true
  | _ => false

def Event.isCollision : Event → Bool
  | .pathCollision .. => true
  | _ => false

namespace Made

/-! ### Directories -/

variable {made earlier : List Made} {pair : Made} {directory : String}

theorem latest?_eq_none_iff : latest? made directory = none ↔ directory ∉ made.map fun pair => pair.1.directory := by
  rw [latest?, List.find?_eq_none]
  simp

theorem directories_concat (made : List Made) (pair : Made) : directories (made ++ [pair]) =
    directories made ++ if latest? made pair.1.directory = none then [pair.1.directory] else [] := by
  rw [directories, List.map_append, List.map_singleton, List.eraseDups_append, directories]
  by_cases h : pair.1.directory ∈ made.map fun pair => pair.1.directory
  · rw [if_neg fun hnone => latest?_eq_none_iff.mp hnone h]
    simp only [List.mem_map] at h
    simp [List.removeAll, h]
  · rw [if_pos (latest?_eq_none_iff.mpr h)]
    simp only [List.mem_map] at h
    simp [List.removeAll, h, List.eraseDups_cons]

/-- Directories and the controller that had each of them last. -/
def byDirectory (made : List Made) : OrderedMap Made :=
  (made.map fun pair => (pair.1.directory, pair)).foldl (fun map entry => map.insert entry.1 entry.2) .empty

theorem lookup_reverse (made : List Made) (directory : String) :
    (made.map fun pair => (pair.1.directory, pair)).reverse.lookup directory = latest? made directory := by
  rw [latest?, ← List.map_reverse]
  induction made.reverse with
  | nil => rfl
  | cons pair made ih =>
      rw [List.map_cons, OrderedMap.lookup_cons, ih, List.find?_cons]
      by_cases h : directory = pair.1.directory
      · simp [h]
      · simp [h, Ne.symm h]

theorem keys_byDirectory (made : List Made) : (byDirectory made).keys = directories made := by
  rw [byDirectory, OrderedMap.keys_foldl_insert_empty, List.map_map]
  rfl

theorem get?_byDirectory (made : List Made) (directory : String) :
    (byDirectory made).get? directory = latest? made directory := by
  rw [byDirectory, OrderedMap.get?_foldl_insert, lookup_reverse]
  exact Option.or_none

theorem remaining_eq (made : List Made) :
    remaining made = (byDirectory made).entries.flatMap fun entry => staged entry.2 := by
  have hvalues : (directories made).filterMap (latest? made) = (byDirectory made).entries.map Prod.snd := by
    rw [OrderedMap.values_eq, keys_byDirectory, funext (get?_byDirectory made)]
  rw [remaining, hvalues, List.flatMap_map]

theorem length_remaining (made : List Made) : (remaining made).length = 2 * (directories made).length := by
  rw [remaining_eq, ← keys_byDirectory, OrderedMap.keys, List.length_map, List.length_flatMap]
  simp [staged, Nat.mul_comm]

/-! ### The staged files -/

variable {root : FilePath} {service : String}

/-- The paths of a pair are those of its directory below the root. -/
structure IsPlaced (root : FilePath) (service : String) (pair : Made) : Prop where
  service_segment : IsSegment service
  directory_segment : IsSegment pair.1.directory
  paths : pair.2.paths = .below root service pair.1.directory

theorem isPlaced_of_controllerFiles {helper : Script.Helper} {selection : Selection}
    (h : (controllerFiles helper root selection pair.1).outcome = .ok pair.2) :
    pair.IsPlaced root (kebabCase selection.module.serviceName) := by
  obtain ⟨hservice, hgroup, hpaths⟩ := outputPaths_eq_ok_iff.mp (paths_of_controllerFiles h)
  exact ⟨isSegment_kebabCase hservice, isSegment_kebabCase hgroup, hpaths⟩

/-- Which of the four paths of two pairs are the same. -/
theorem IsPlaced.same {other : Made} (h : pair.IsPlaced root service) (hother : other.IsPlaced root service) :
    (other.2.paths.model.same pair.2.paths.model = true ↔ other.1.directory = pair.1.directory) ∧
      (other.2.paths.api.same pair.2.paths.api = true ↔ other.1.directory = pair.1.directory) ∧
      other.2.paths.model.same pair.2.paths.api = false ∧ other.2.paths.api.same pair.2.paths.model = false := by
  rw [h.paths, hother.paths]
  have htfae := @OutputPaths.below_tfae root _ _ _ _ h.service_segment hother.directory_segment h.service_segment
    h.directory_segment
  have hcrossed := @OutputPaths.api_ne_model root _ _ _ _ h.service_segment h.directory_segment h.service_segment
    hother.directory_segment
  have hcrossed' := @OutputPaths.api_ne_model root _ _ _ _ h.service_segment hother.directory_segment
    h.service_segment h.directory_segment
  refine ⟨?_, ?_, FilePath.same_eq_false hcrossed.symm, FilePath.same_eq_false hcrossed'⟩
  · exact (htfae.out 1 4).trans (and_iff_right rfl)
  · exact (htfae.out 0 4).trans (and_iff_right rfl)

theorem staged_append (pair : Made) (rest : List (FilePath × OutputFile)) :
    staged pair ++ rest =
      (pair.2.paths.model, pair.2.modelFile pair.1) :: (pair.2.paths.api, pair.2.apiFile pair.1) :: rest := rfl

theorem putFile_of_same {place : FilePath} (file : OutputFile) (h : place.same file.path = true)
    (earlier : OutputFile) (rest : List (FilePath × OutputFile)) :
    StagedOutput.putFile file ((place, earlier) :: rest) = (place, file) :: rest := by
  rw [StagedOutput.putFile, if_pos h]

theorem putFile_of_other {place : FilePath} (file : OutputFile) (h : place.same file.path = false)
    (earlier : OutputFile) (rest : List (FilePath × OutputFile)) :
    StagedOutput.putFile file ((place, earlier) :: rest) = (place, earlier) :: StagedOutput.putFile file rest := by
  rw [StagedOutput.putFile, if_neg (ne_true_of_eq_false h)]

/-- Staging both files of a controller puts one entry into the map of directories. -/
theorem putFile_flatMap (h : pair.IsPlaced root service) {entries : List (String × Made)}
    (hentries : ∀ entry ∈ entries, entry.2.IsPlaced root service ∧ entry.1 = entry.2.1.directory) :
    StagedOutput.putFile (pair.2.apiFile pair.1) (StagedOutput.putFile (pair.2.modelFile pair.1)
        (entries.flatMap fun entry => staged entry.2)) =
      (OrderedMap.putEntry pair.1.directory pair entries).flatMap fun entry => staged entry.2 := by
  induction entries with
  | nil =>
      have hcrossed : (pair.2.modelFile pair.1).path.same (pair.2.apiFile pair.1).path = false := (h.same h).2.2.1
      rw [List.flatMap_nil, StagedOutput.putFile, putFile_of_other _ hcrossed]
      rfl
  | cons entry entries ih =>
      obtain ⟨directory, other⟩ := entry
      rw [List.forall_mem_cons] at hentries
      obtain ⟨⟨hother, hdirectory⟩, hentries⟩ := hentries
      obtain rfl : directory = other.1.directory := hdirectory
      obtain ⟨hmodel, hapi, hcrossed, hcrossed'⟩ := h.same hother
      rw [List.flatMap_cons, staged_append, OrderedMap.putEntry]
      by_cases hsame : other.1.directory = pair.1.directory
      · have hpaths : other.2.paths = pair.2.paths := by rw [hother.paths, h.paths, hsame]
        rw [if_pos hsame, putFile_of_same (pair.2.modelFile pair.1) (hmodel.mpr hsame),
          putFile_of_other (pair.2.apiFile pair.1) hcrossed, putFile_of_same (pair.2.apiFile pair.1) (hapi.mpr hsame),
          hpaths, List.flatMap_cons, staged_append]
      · have hmodel' := Bool.eq_false_iff.mpr (mt hmodel.mp hsame)
        have hapi' := Bool.eq_false_iff.mpr (mt hapi.mp hsame)
        rw [if_neg hsame, putFile_of_other (pair.2.modelFile pair.1) hmodel',
          putFile_of_other (pair.2.modelFile pair.1) hcrossed', putFile_of_other (pair.2.apiFile pair.1) hcrossed,
          putFile_of_other (pair.2.apiFile pair.1) hapi', ih hentries, List.flatMap_cons, staged_append]

theorem entries_stageController (h : pair.IsPlaced root service) {map : OrderedMap Made}
    (hmap : ∀ entry ∈ map.entries, entry.2.IsPlaced root service ∧ entry.1 = entry.2.1.directory) :
    StagedOutput.stageController ⟨map.entries.flatMap fun entry => staged entry.2⟩ pair.1 pair.2 =
      ⟨(map.insert pair.1.directory pair).entries.flatMap fun entry => staged entry.2⟩ :=
  congrArg StagedOutput.mk (putFile_flatMap h hmap)

/-- The files that are staged in turn are those of the map of directories. -/
theorem foldl_stageController (hmade : ∀ pair ∈ made, pair.IsPlaced root service) {map : OrderedMap Made}
    (hmap : ∀ entry ∈ map.entries, entry.2.IsPlaced root service ∧ entry.1 = entry.2.1.directory) :
    made.foldl (fun output pair => output.stageController pair.1 pair.2)
        (⟨map.entries.flatMap fun entry => staged entry.2⟩ : StagedOutput) =
      ⟨((made.map fun pair => (pair.1.directory, pair)).foldl (fun map entry => map.insert entry.1 entry.2)
        map).entries.flatMap fun entry => staged entry.2⟩ := by
  induction made generalizing map with
  | nil => rfl
  | cons pair made ih =>
      rw [List.forall_mem_cons] at hmade
      rw [List.foldl_cons, List.map_cons, List.foldl_cons, entries_stageController hmade.1 hmap]
      apply ih hmade.2
      intro entry hentry
      rcases OrderedMap.mem_putEntry hentry with rfl | hearlier
      · exact ⟨hmade.1, rfl⟩
      · exact hmap entry hearlier

/-- The files as they are after the controllers were staged one after the other. -/
def output (made : List Made) : StagedOutput :=
  made.foldl (fun output pair => output.stageController pair.1 pair.2) .empty

theorem entries_output (hmade : ∀ pair ∈ made, pair.IsPlaced root service) :
    (output made).entries = remaining made := by
  have hempty : ∀ entry ∈ (OrderedMap.empty : OrderedMap Made).entries,
      entry.2.IsPlaced root service ∧ entry.1 = entry.2.1.directory := List.forall_mem_nil _
  have hfold := foldl_stageController hmade hempty
  rw [remaining_eq]
  exact congrArg StagedOutput.entries hfold

/-! ### The predecessor -/

theorem findSome?_eq_map_find? {α β : Type} {p : α → Prop} [DecidablePred p] {f : α → β} {g : α → Option β}
    {values : List α} (h : ∀ value ∈ values, g value = if p value then some (f value) else none) :
    values.findSome? g = (values.find? fun value => p value).map f := by
  induction values with
  | nil => rfl
  | cons value values ih =>
      rw [List.forall_mem_cons] at h
      rw [List.findSome?_cons, List.find?_cons, h.1, ih h.2]
      by_cases hvalue : p value <;> simp [hvalue]

/-- What is found at the two places of a controller before it is staged: the files of the latest controller that has
its directory. -/
theorem get?_output {helper : Script.Helper} {selection : Selection} {controller : Controller}
    {files : ControllerFiles}
    (hearlier : ∀ pair ∈ earlier, (controllerFiles helper root selection pair.1).outcome = .ok pair.2)
    (h : (controllerFiles helper root selection controller).outcome = .ok files) :
    (output earlier).get? files.paths.model =
        (latest? earlier controller.directory).map (fun previous => previous.2.modelFile previous.1) ∧
      (output earlier).get? files.paths.api =
        (latest? earlier controller.directory).map (fun previous => previous.2.apiFile previous.1) := by
  have hat : ∀ pair ∈ earlier.reverse, _ := fun pair hpair => at?_paths h (hearlier pair (List.mem_reverse.mp hpair))
  constructor
  · rw [output, StagedOutput.get?_foldl, findSome?_eq_map_find? fun pair hpair => (hat pair hpair).1]
    exact Option.or_none
  · rw [output, StagedOutput.get?_foldl, findSome?_eq_map_find? fun pair hpair => (hat pair hpair).2]
    exact Option.or_none

end Made

/-! ### The events of a generation -/

variable {helper : Script.Helper} {root : FilePath} {selection : Selection} {controller : Controller}

theorem events_controllerFiles (helper : Script.Helper) (root : FilePath) (selection : Selection)
    (controller : Controller) : (controllerFiles helper root selection controller).events = [] :=
  List.eq_nil_iff_forall_not_mem.mpr (reporting_controllerFiles (fun _ => False) helper root selection controller)

theorem events_stageFile (output : StagedOutput) (file : OutputFile) :
    (stageFile output file).events = .fileGenerated file.controller file.kind file.path ::
      ((output.get? file.path).map fun previous =>
        Event.pathCollision file.path previous.controller file.controller).toList := by
  have hstage : output.stage file = ((output.stage file).1, output.get? file.path) := rfl
  rw [stageFile, Traced.events_bind_of_ok (Traced.outcome_report _), hstage]
  cases output.get? file.path <;> rfl

theorem events_generateController {output : StagedOutput} {files : ControllerFiles}
    (h : (controllerFiles helper root selection controller).outcome = .ok files) :
    (generateController helper root selection output controller).events = .controllerStarted controller.name ::
      ((stageFile output (files.modelFile controller)).events ++
        (stageFile (output.stage (files.modelFile controller)).1 (files.apiFile controller)).events) := by
  rw [generateController, Traced.events_bind_of_ok (Traced.outcome_report _), Traced.events_bind_of_ok h,
    events_controllerFiles, Traced.events_bind_of_ok (outcome_stageFile _ _)]
  rfl

/-- What a controller reports when it is staged behind the earlier ones. -/
theorem events_controllerStory {earlier : List Made} {files : ControllerFiles}
    (hearlier : ∀ pair ∈ earlier, (controllerFiles helper root selection pair.1).outcome = .ok pair.2)
    (h : (controllerFiles helper root selection controller).outcome = .ok files) :
    (generateController helper root selection (Made.output earlier) controller).events =
      Made.controllerStory earlier (controller, files) := by
  obtain ⟨hmodel, hapi⟩ := Made.get?_output hearlier h
  have hcrossed : files.paths.model.same files.paths.api = false :=
    FilePath.same_eq_false (outputPaths_api_ne_model (paths_of_controllerFiles h) (paths_of_controllerFiles h)).symm
  have hbehind : ((Made.output earlier).stage (files.modelFile controller)).1.get? files.paths.api =
      (Made.output earlier).get? files.paths.api := by
    rw [StagedOutput.get?_stage]
    exact if_neg (ne_true_of_eq_false hcrossed)
  have hmodelEvents : (stageFile (Made.output earlier) (files.modelFile controller)).events =
      Made.fileStory earlier controller .model files.paths.model := by
    rw [events_stageFile, show (files.modelFile controller).path = files.paths.model from rfl, hmodel,
      Option.map_map]
    rfl
  have hapiEvents : (stageFile ((Made.output earlier).stage (files.modelFile controller)).1
      (files.apiFile controller)).events = Made.fileStory earlier controller .api files.paths.api := by
    rw [events_stageFile, show (files.apiFile controller).path = files.paths.api from rfl, hbehind, hapi,
      Option.map_map]
    rfl
  rw [events_generateController h, hmodelEvents, hapiEvents, Made.controllerStory]

theorem events_generateFrom {earlier : List Made} {controllers : List Controller} {files : List ControllerFiles}
    (hearlier : ∀ pair ∈ earlier, (controllerFiles helper root selection pair.1).outcome = .ok pair.2)
    (h : List.Forall₂ (fun controller files =>
      (controllerFiles helper root selection controller).outcome = .ok files) controllers files) :
    (generateFrom helper root selection (Made.output earlier) controllers).events =
      Made.story earlier (controllers.zip files) := by
  induction h generalizing earlier with
  | nil => rfl
  | @cons controller files controllers others hfiles _ ih =>
      have houtput : (generateController helper root selection (Made.output earlier) controller).outcome =
          .ok (Made.output (earlier ++ [(controller, files)])) := by
        rw [outcome_generateController, hfiles, Made.output, Made.output, List.foldl_append]
        rfl
      have hnext : ∀ pair ∈ earlier ++ [(controller, files)],
          (controllerFiles helper root selection pair.1).outcome = .ok pair.2 := by
        intro pair hpair
        rcases List.mem_append.mp hpair with hpair | hpair
        · exact hearlier pair hpair
        · cases List.mem_singleton.mp hpair
          exact hfiles
      rw [generateFrom, Traced.events_bind_of_ok houtput, events_controllerStory hearlier hfiles, ih hnext]
      rfl

/-! ### Counting -/

namespace Made

theorem countP_controllerStory (earlier : List Made) (pair : Made) :
    (controllerStory earlier pair).countP Event.isGenerated = 2 ∧
      (controllerStory earlier pair).countP Event.isCollision =
        if latest? earlier pair.1.directory = none then 0 else 2 := by
  rw [controllerStory, fileStory, fileStory]
  cases latest? earlier pair.1.directory with
  | none => exact ⟨rfl, rfl⟩
  | some previous => exact ⟨rfl, rfl⟩

/-- A controller reports two files. Either its directory is new and gives it two places, or it takes the places of an
earlier one and reports that twice. -/
theorem countP_story (earlier made : List Made) :
    (story earlier made).countP Event.isGenerated + 2 * (directories earlier).length =
      2 * (directories (earlier ++ made)).length + (story earlier made).countP Event.isCollision := by
  induction made generalizing earlier with
  | nil => simp [story]
  | cons pair made ih =>
      obtain ⟨hgenerated, hcollisions⟩ := countP_controllerStory earlier pair
      have hrest := ih (earlier ++ [pair])
      rw [directories_concat, List.append_assoc, List.singleton_append] at hrest
      rw [story, List.countP_append, List.countP_append, hgenerated, hcollisions]
      split_ifs at hrest ⊢
      · rw [List.length_append, List.length_singleton] at hrest
        omega
      · rw [List.append_nil] at hrest
        omega

end Made

/-- The events of a generation that succeeds are those of its controllers in turn, and the files are those of the last
controller of each directory, where the first one put them; so every file that is reported either has a place or was
replaced, and that was reported too. -/
theorem events_tell_output {output : StagedOutput} (h : (generate helper root selection).outcome = .ok output) :
    ∃ made : List Made, made.map Prod.fst = selection.module.controllers.entries.map Prod.snd ∧
      (∀ pair ∈ made, (controllerFiles helper root selection pair.1).outcome = .ok pair.2) ∧
      (generate helper root selection).events = Made.story [] made ∧
      output.entries = Made.remaining made ∧
      output.size = 2 * (Made.directories made).length ∧
      (generate helper root selection).events.countP Event.isGenerated =
        output.size + (generate helper root selection).events.countP Event.isCollision := by
  obtain ⟨files, hfiles, rfl⟩ := generateFrom_eq_ok_iff.mp h
  have hmade : ∀ pair ∈ (selection.module.controllers.entries.map Prod.snd).zip files,
      (controllerFiles helper root selection pair.1).outcome = .ok pair.2 :=
    fun pair hpair => (List.forall₂_iff_zip.mp hfiles).2 hpair
  have hevents : (generate helper root selection).events =
      Made.story [] ((selection.module.controllers.entries.map Prod.snd).zip files) :=
    events_generateFrom (List.forall_mem_nil _) hfiles
  have hentries := Made.entries_output fun pair hpair => Made.isPlaced_of_controllerFiles (hmade pair hpair)
  have hsize := (congrArg List.length hentries).trans (Made.length_remaining _)
  have hcount := Made.countP_story [] ((selection.module.controllers.entries.map Prod.snd).zip files)
  refine ⟨_, List.map_fst_zip (le_of_eq hfiles.length_eq), hmade, hevents, hentries, hsize, ?_⟩
  rw [hevents]
  exact hcount.trans (congrArg (· + _) hsize.symm)

/-- Three controllers, of which the last has the directory of the first. -/
def sharedSelection : Selection where
  key := "app"
  module := ⟨"App", ⟨[("User", silentController "User"), ("Order", ⟨"Order", "order", []⟩),
    ("Admin", silentController "Admin")], by decide⟩⟩
  types := ⟨[], List.nodup_nil⟩

def sharedFiles (controller : Controller) : ControllerFiles where
  paths := .below ⟨"out"⟩ "app" controller.directory
  model := Script.banner "app" controller.name ++ "\n" ++ Script.declarationsText []
  api := Script.banner "app" controller.name ++ "\n" ++ Script.ApiSource.text ⟨{}, []⟩

theorem controllerFiles_sharedSelection :
    ∀ controller ∈ sharedSelection.module.controllers.entries.map Prod.snd,
      (controllerFiles {} ⟨"out"⟩ sharedSelection controller).outcome = .ok (sharedFiles controller) := by
  intro controller hcontroller
  have hsilent : controller.actions = [] ∧
      outputPaths ⟨"out"⟩ "App" controller.groupName Script.extension = .ok (sharedFiles controller).paths := by
    revert controller
    decide +kernel
  have hneeded : sharedSelection.types.neededBy controller = .ok [] := by
    rw [TypeMap.neededBy, Controller.typeIds, hsilent.1]
    show (TypeMap.gather _ [] []).map _ = _
    rw [TypeMap.gather]
    exact congrArg Except.ok List.mergeSort_nil
  have hsource : (Script.apiSource sharedSelection.types (Script.fileTypeNames {} []) {} controller).outcome =
      .ok ⟨{}, []⟩ := by
    rw [Script.apiSource, Controller.bind, hsilent.1]
    rfl
  exact controllerFiles_eq_ok_iff.mpr ⟨[], [], ⟨{}, []⟩, hneeded, rfl, hsource, hsilent.2, rfl, rfl⟩

/-- The last controller reports the first one twice and takes its two places. -/
theorem sharedSelection_events_tell_output : ∃ output made,
    (generate {} ⟨"out"⟩ sharedSelection).outcome = .ok output ∧
      (generate {} ⟨"out"⟩ sharedSelection).events = Made.story [] made ∧
      output.entries = Made.remaining made ∧
      output.files.map OutputFile.controller = ["Admin", "Admin", "Order", "Order"] ∧
      (generate {} ⟨"out"⟩ sharedSelection).events.countP Event.isCollision = 2 := by
  have hfiles := controllerFiles_sharedSelection
  have hforall : List.Forall₂ (fun controller files =>
      (controllerFiles {} ⟨"out"⟩ sharedSelection controller).outcome = .ok files)
      (sharedSelection.module.controllers.entries.map Prod.snd)
      ((sharedSelection.module.controllers.entries.map Prod.snd).map sharedFiles) := by
    rw [List.forall₂_map_right_iff, List.forall₂_same]
    exact hfiles
  obtain ⟨output, houtput⟩ : ∃ output, (generate {} ⟨"out"⟩ sharedSelection).outcome = .ok output :=
    ⟨_, generateFrom_eq_ok_iff.mpr ⟨_, hforall, rfl⟩⟩
  obtain ⟨made, hmap, hmade, hevents, hentries, -, -⟩ := events_tell_output houtput
  have hshared : made = (sharedSelection.module.controllers.entries.map Prod.snd).map fun controller =>
      (controller, sharedFiles controller) := by
    have hpairs : ∀ pair ∈ made, pair = (pair.1, sharedFiles pair.1) := by
      intro pair hpair
      have hcontroller := hfiles pair.1 (hmap ▸ List.mem_map_of_mem hpair)
      have hsame : pair.2 = sharedFiles pair.1 := Except.ok.inj ((hmade pair hpair).symm.trans hcontroller)
      rw [← hsame]
    rw [← hmap, List.map_map]
    exact (List.map_id made).symm.trans (List.map_congr_left hpairs)
  refine ⟨output, made, houtput, hevents, hentries, ?_, ?_⟩
  · rw [StagedOutput.files, hentries, hshared]
    decide +kernel
  · rw [hevents, hshared]
    decide +kernel

end ApiProxy
