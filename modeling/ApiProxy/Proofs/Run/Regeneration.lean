import ApiProxy.Proofs.Disk.Replacement
import ApiProxy.Proofs.Generation.Story
import ApiProxy.Proofs.Run.History

/-! Runs that write to a tree. The files of a run are the index files of different directories below the directory of
the service, so that no write disturbs what an earlier one has left, and no temporary file stays. A second run finds
what it would write, and the tree is as before. -/

namespace ApiProxy

open FileTree

variable {tree after : FileTree} {current place tail otherTail : List String} {base : FilePath} {content : String}
  {file other : OutputFile} {files : List OutputFile} {tails : List (List String)} {paths : List FilePath}

/-- The file is the index file of a directory below the base, and the temporary file of another one is not on the way
to it. -/
structure OutputFile.Lies (base : FilePath) (file : OutputFile) (tail : List String) : Prop where
  path : file.path = (base.descend tail).join "index.ts"
  names : ∀ part ∈ tail, FilePath.IsName part
  no_temporary : "index.tmp" ∉ tail

section Writing

variable (hbase : base.IsNamed)

include hbase

/-- One write leaves the index files of the other directories as they are. -/
theorem FileTree.Holds.replace_other (hlies : file.Lies base tail) (hother : other.Lies base otherTail)
    (hne : otherTail ≠ tail) (h : tree.Holds current (base.descend tail) place content)
    (hreplace : (system current).replace other.path other.content tree = (.ok (), after)) :
    after.Holds current (base.descend tail) place content := by
  obtain ⟨outer, houter, rfl⟩ := h.opens.of_descend hbase hlies.names
  have hnamed := FilePath.isNamed_descend hbase hother.names
  have hadds := houter.adds_ensureDirectories hbase hother.names
  rw [hother.path] at hreplace
  obtain ⟨_, otherPlace, hroom, rfl⟩ := (replace_index_iff hnamed).mp hreplace
  obtain ⟨otherOuter, hotherOuter, rfl⟩ := hroom.opens.of_descend hbase hother.names
  obtain rfl := (houter.keep hadds.keepsDirectories).unique hotherOuter
  -- the base is open already, so new directories are only on the way from it to the other file
  have hclear : ¬∃ front, front <+: otherTail ∧ outer ++ tail ++ ["index.tmp"] = outer ++ front := by
    rintro ⟨front, hfront, heq⟩
    rw [List.append_assoc] at heq
    obtain rfl := List.append_cancel_left heq
    exact hother.no_temporary (hfront.subset (List.mem_append_right tail List.mem_cons_self))
  apply (h.adds hadds hclear).settle hroom
  intro heq
  exact hne (List.append_cancel_left heq)

/-- A file that was written is there after the others are written, too. -/
theorem FileTree.Holds.writeAll (hlies : file.Lies base tail) (hfiles : List.Forall₂ (OutputFile.Lies base) files tails)
    (hnew : tail ∉ tails) (h : tree.Holds current (base.descend tail) place content)
    (hwritten : (ApiProxy.writeAll (system current).replace files tree).1.outcome = .ok paths) :
    (ApiProxy.writeAll (system current).replace files tree).2.Holds current (base.descend tail) place content := by
  induction hfiles generalizing tree paths with
  | nil => exact h
  | @cons other otherTail files tails hother hrest ih =>
      rw [List.mem_cons, not_or] at hnew
      obtain ⟨hfirst, others, hothers, hlast⟩ := writeAll_cons_eq_ok _ other files tree hwritten
      rw [hlast]
      apply ih hnew.2 ?_ hothers
      exact h.replace_other hbase hlies hother (Ne.symm hnew.1) (Prod.ext hfirst rfl)

/-- The file stands in the tree as it was staged. -/
def OutputFile.Stands (tree : FileTree) (current : List String) (base : FilePath) (file : OutputFile) : Prop :=
  ∃ tail place, file.Lies base tail ∧ tree.Holds current (base.descend tail) place file.content

/-- After a run that succeeds all of its files stand. -/
theorem stands_writeAll (hfiles : List.Forall₂ (OutputFile.Lies base) files tails) (htails : tails.Nodup)
    (hwritten : (writeAll (system current).replace files tree).1.outcome = .ok paths) :
    ∀ file ∈ files, file.Stands (writeAll (system current).replace files tree).2 current base := by
  induction hfiles generalizing tree paths with
  | nil => exact List.forall_mem_nil _
  | @cons file tail files tails hlies hrest ih =>
      rw [List.nodup_cons] at htails
      obtain ⟨hfirst, others, hothers, hafter⟩ := writeAll_cons_eq_ok _ file files tree hwritten
      have hnamed := FilePath.isNamed_descend hbase hlies.names
      have hreplace : (system current).replace ((base.descend tail).join "index.ts") file.content tree =
          (.ok (), ((system current).replace file.path file.content tree).2) := by
        rw [← hlies.path]
        exact Prod.ext hfirst rfl
      obtain ⟨_, place, hroom, hnext⟩ := (replace_index_iff hnamed).mp hreplace
      have hholds := hroom.holds file.content
      rw [← hnext] at hholds
      rw [hafter, List.forall_mem_cons]
      refine ⟨⟨tail, place, hlies, ?_⟩, ih htails.2 hothers⟩
      exact hholds.writeAll hbase hlies hrest htails.1 hothers

/-- Files that stand already are written again, and the tree is as before. -/
theorem writeAll_again (hstands : ∀ file ∈ files, file.Stands tree current base) :
    ∃ after, writeAll (system current).replace files tree = (allWritten files, after) ∧ after.Same tree := by
  induction files generalizing tree with
  | nil => exact ⟨tree, rfl, fun _ => rfl⟩
  | cons file files ih =>
      rw [List.forall_mem_cons] at hstands
      obtain ⟨⟨tail, place, hlies, hholds⟩, hrest⟩ := hstands
      have hnamed := FilePath.isNamed_descend hbase hlies.names
      obtain ⟨next, hreplace, hnext⟩ := hholds.replace hnamed
      rw [← hlies.path] at hreplace
      have hstill : ∀ other ∈ files, other.Stands next current base := by
        intro other hother
        obtain ⟨otherTail, otherPlace, hotherLies, hotherHolds⟩ := hrest other hother
        exact ⟨otherTail, otherPlace, hotherLies, hotherHolds.same hnext.symm⟩
      obtain ⟨after, hafter, hsame⟩ := ih hstill
      refine ⟨after, ?_, hsame.trans hnext⟩
      rw [writeAll_of_ok _ file files tree (congrArg Prod.fst hreplace), hreplace, hafter]
      rfl

end Writing

/-! ### The files of a generation -/

theorem dot_notMem_kebabCase (name : String) : '.' ∉ (kebabCase name).toList := by
  have hlist : (kebabCase name).toList = Words.kebab name.toList := String.toList_ofList
  rw [hlist]
  exact Words.notMem_kebab (by decide) (by decide)

namespace Made

variable {helper : Script.Helper} {root : FilePath} {selection : Selection} {service : String} {pair : Made}

/-- Where the two files of a group are below the directory of the service. -/
def groupTails (group : String) : List (List String) := [[group, "model"], [group]]

theorem model_below (root : FilePath) (service group : String) :
    (OutputPaths.below root service group).model =
      ((root.join service).descend [group, "model"]).join "index.ts" := by
  rw [FilePath.descend, List.foldl_cons, List.foldl_cons, List.foldl_nil]
  rfl

theorem api_below (root : FilePath) (service group : String) :
    (OutputPaths.below root service group).api = ((root.join service).descend [group]).join "index.ts" := by
  rw [FilePath.descend, List.foldl_cons, List.foldl_nil]
  rfl

theorem nodup_flatMap_groupTails {groups : List String} (h : groups.Nodup) : (groups.flatMap groupTails).Nodup := by
  apply List.nodup_flatMap.mpr
  constructor
  · intro group _
    simp [groupTails]
  · apply h.imp
    intro group other hne
    simp [Function.onFun, groupTails, hne.symm]

theorem IsPlaced.lies (h : pair.IsPlaced root service) :
    List.Forall₂ (OutputFile.Lies (root.join service)) (pair.staged.map Prod.snd) (groupTails pair.1.directory) := by
  have hdirectory : FilePath.IsName pair.1.directory := h.directory_segment.toIsName
  have hdifferent : "index.tmp" ≠ pair.1.directory := by
    intro heq
    apply dot_notMem_kebabCase pair.1.groupName
    show '.' ∈ pair.1.directory.toList
    rw [← heq]
    simp
  have hmodel : (pair.2.modelFile pair.1).Lies (root.join service) [pair.1.directory, "model"] := by
    refine ⟨?_, by simp [hdirectory, isName_model], by simp [hdifferent]⟩
    exact (congrArg OutputPaths.model h.paths).trans (model_below root service pair.1.directory)
  have hapi : (pair.2.apiFile pair.1).Lies (root.join service) [pair.1.directory] := by
    refine ⟨?_, by simp [hdirectory], by simp [hdifferent]⟩
    exact (congrArg OutputPaths.api h.paths).trans (api_below root service pair.1.directory)
  exact .cons hmodel (.cons hapi .nil)

theorem lies_flatMap {entries : List (String × Made)}
    (h : ∀ entry ∈ entries, entry.2.IsPlaced root service ∧ entry.1 = entry.2.1.directory) :
    List.Forall₂ (OutputFile.Lies (root.join service)) ((entries.flatMap fun entry => staged entry.2).map Prod.snd)
      ((entries.map Prod.fst).flatMap groupTails) := by
  induction entries with
  | nil => exact .nil
  | cons entry entries ih =>
      rw [List.forall_mem_cons] at h
      rw [List.flatMap_cons, List.map_append, List.map_cons, List.flatMap_cons, h.1.2]
      exact List.rel_append h.1.1.lies (ih h.2)

theorem placed_byDirectory {made : List Made} (hmade : ∀ pair ∈ made, pair.IsPlaced root service) :
    ∀ entry ∈ (byDirectory made).entries, entry.2.IsPlaced root service ∧ entry.1 = entry.2.1.directory := by
  rintro ⟨directory, pair⟩ hentry
  have hlatest : latest? made directory = some pair := by
    rw [← get?_byDirectory, OrderedMap.get?_eq_some_iff]
    exact hentry
  have hpair : pair ∈ made := List.mem_reverse.mp (List.mem_of_find?_eq_some hlatest)
  have hdirectory : pair.1.directory = directory := by simpa using List.find?_some hlatest
  exact ⟨hmade pair hpair, hdirectory.symm⟩

/-- The staged files are index files of different directories below that of the service. -/
theorem lies_remaining {made : List Made} (hmade : ∀ pair ∈ made, pair.IsPlaced root service) :
    List.Forall₂ (OutputFile.Lies (root.join service)) ((remaining made).map Prod.snd)
        ((directories made).flatMap groupTails) ∧
      ((directories made).flatMap groupTails).Nodup := by
  rw [remaining_eq, ← keys_byDirectory]
  exact ⟨lies_flatMap (placed_byDirectory hmade), nodup_flatMap_groupTails (byDirectory made).distinct⟩

theorem path_remaining {made : List Made} : ∀ entry ∈ remaining made, entry.2.path = entry.1 := by
  intro entry hentry
  obtain ⟨pair, _, hstaged⟩ := List.mem_flatMap.mp hentry
  rcases List.mem_pair.mp hstaged with rfl | rfl <;> rfl

end Made

/-- Whatever is staged, the files lie in different directories below one that ends in a name. -/
theorem lies_of_generate {helper : Script.Helper} {root : FilePath} {selection : Selection} {output : StagedOutput}
    (h : (generate helper root selection).outcome = .ok output) :
    (∀ entry ∈ output.entries, entry.2.path = entry.1) ∧
      ∃ base tails, FilePath.IsNamed base ∧ List.Forall₂ (OutputFile.Lies base) output.files tails ∧ tails.Nodup := by
  obtain ⟨files, hfiles, rfl⟩ := generateFrom_eq_ok_iff.mp h
  have hplaced : ∀ pair ∈ (selection.module.controllers.entries.map Prod.snd).zip files,
      Made.IsPlaced root (kebabCase selection.module.serviceName) pair := fun pair hpair =>
    Made.isPlaced_of_controllerFiles ((List.forall₂_iff_zip.mp hfiles).2 hpair)
  have hentries := Made.entries_output hplaced
  generalize (selection.module.controllers.entries.map Prod.snd).zip files = made at hplaced hentries ⊢
  refine ⟨?_, ?_⟩
  · intro entry hentry
    exact Made.path_remaining entry (hentries ▸ hentry)
  cases made with
  | nil =>
      -- nothing is staged, so any base will do
      exact ⟨root.join "model", [], FilePath.isNamed_join root isName_model, .nil, List.nodup_nil⟩
  | cons pair made =>
      obtain ⟨hlies, hnodup⟩ := Made.lies_remaining hplaced
      have hservice := (hplaced pair List.mem_cons_self).service_segment.toIsName
      refine ⟨_, _, FilePath.isNamed_join root hservice, ?_, hnodup⟩
      rw [← hentries] at hlies
      exact hlies

/-! ### Whole runs -/

theorem OutputFile.Stands.find (hbase : base.IsNamed) (h : file.Stands tree current base) :
    tree.find current file.path = .ok (.file file.content) ∧
      tree.find current (file.path.withExtension FileSystem.temporaryExtension) = .error .notFound := by
  obtain ⟨tail, place, hlies, hholds⟩ := h
  have hnamed := FilePath.isNamed_descend hbase hlies.names
  rw [hlies.path]
  exact hholds.find hnamed

variable {request : RunRequest} {location : String} {schema : Schema} {selection : Selection} {output : StagedOutput}

theorem generate_of_staged (h : request.staged (.ok schema) = .ok (selection, output)) :
    (generate request.helper request.output selection).outcome = .ok output := by
  unfold RunRequest.staged at h
  obtain ⟨_, _, h⟩ := Outcome.bind_eq_ok_iff.mp h
  obtain ⟨_, _, h⟩ := Outcome.bind_eq_ok_iff.mp h
  obtain ⟨_, houtput, h⟩ := Outcome.bind_eq_ok_iff.mp h
  cases h
  exact houtput

/-- A run that succeeds leaves every staged file with its content under its path and no temporary file beside it. From
the tree that it leaves, the same run has the same result once more, and the tree has the same at every place. -/
theorem regeneration_changes_nothing {result : Traced Summary} {summary : Summary}
    (hwriting : request.isDryRun = false)
    (hrun : request.run location (pure (.ok schema)) (system current).replace tree = (result, after))
    (hresult : result.outcome = .ok summary) :
    (∀ entry ∈ summary.output.entries, entry.2.path = entry.1 ∧
        after.find current entry.1 = .ok (.file entry.2.content) ∧
        after.find current (entry.1.withExtension FileSystem.temporaryExtension) = .error .notFound) ∧
      ∃ again, request.run location (pure (.ok schema)) (system current).replace after = (result, again) ∧
        again.Same after := by
  cases hprepared : (request.prepare location (.ok schema)).outcome with
  | error failure =>
      rw [run_of_error hprepared] at hrun
      cases hrun
      cases hresult
  | ok staged =>
      obtain ⟨selection, output⟩ := staged
      have hrunning (tree : FileTree) :
          request.run location (pure (.ok schema)) (system current).replace tree =
            (concluded (request.prepare location (.ok schema)) selection output
              (writeAll (system current).replace output.files tree).1,
              (writeAll (system current).replace output.files tree).2) :=
        run_of_ok hprepared hwriting
      rw [hrunning] at hrun
      cases hrun
      rw [outcome_concluded hprepared] at hresult
      obtain ⟨paths, hpaths, rfl⟩ := Outcome.map_eq_ok_iff.mp hresult
      have hgenerate := generate_of_staged ((outcome_prepare request location _).symm.trans hprepared)
      obtain ⟨hkeys, base, tails, hbase, hlies, htails⟩ := lies_of_generate hgenerate
      have hstands := stands_writeAll hbase hlies htails hpaths
      refine ⟨?_, ?_⟩
      · intro entry hentry
        have hpath := hkeys entry hentry
        have hfound := (hstands entry.2 (List.mem_map_of_mem hentry)).find hbase
        rw [hpath] at hfound
        exact ⟨hpath, hfound⟩
      · obtain ⟨again, hagain, hsame⟩ := writeAll_again hbase hstands
        refine ⟨again, ?_, hsame⟩
        rw [hrunning, hagain, writeAll_eq_allWritten _ hpaths]

def sharedSchema : Schema where
  modules := ⟨[(sharedSelection.key, sharedSelection.module)], by decide⟩
  types := sharedSelection.types

/-- A tree with an older file, and with what was left when its replacement was torn off. -/
def usedTree : FileTree where
  entries := [(["out"], .directory), (["out", "app"], .directory), (["out", "app", "user"], .directory),
    (["out", "app", "user", "index.ts"], .file "old"), (["out", "app", "user", "index.tmp"], .file "torn")]

def sharedMade : List Made :=
  (sharedSelection.module.controllers.entries.map Prod.snd).map fun controller => (controller, sharedFiles controller)

theorem staged_sharedSchema :
    userRequest.staged (.ok sharedSchema) = .ok (sharedSelection, Made.output sharedMade) := by
  have hselect : sharedSchema.select userRequest.module = .ok sharedSelection := by decide +kernel
  have hfiles : List.Forall₂ (fun controller files =>
      (controllerFiles {} ⟨"out"⟩ sharedSelection controller).outcome = .ok files)
      (sharedSelection.module.controllers.entries.map Prod.snd)
      ((sharedSelection.module.controllers.entries.map Prod.snd).map sharedFiles) := by
    rw [List.forall₂_map_right_iff, List.forall₂_same]
    exact controllerFiles_sharedSelection
  have hgenerate : (generate userRequest.helper userRequest.output sharedSelection).outcome =
      .ok (Made.output sharedMade) := by
    refine generateFrom_eq_ok_iff.mpr ⟨_, hfiles, ?_⟩
    rfl
  simp only [RunRequest.staged, hselect, hgenerate, bind, Except.bind]

/-- The old file and the torn one are replaced, and two controllers of one directory do not disturb each other. -/
theorem regenerate_sharedSchema : ∃ result summary after again,
    userRequest.run "here" (pure (.ok sharedSchema)) (system []).replace usedTree = (result, after) ∧
      result.outcome = .ok summary ∧ summary.output.size = 4 ∧
      (∀ entry ∈ summary.output.entries, entry.2.path = entry.1 ∧
        after.find [] entry.1 = .ok (.file entry.2.content) ∧
        after.find [] (entry.1.withExtension FileSystem.temporaryExtension) = .error .notFound) ∧
      userRequest.run "here" (pure (.ok sharedSchema)) (system []).replace after = (result, again) ∧
      again.Same after := by
  have hprepared := (outcome_prepare userRequest "here" (.ok sharedSchema)).trans staged_sharedSchema
  have hwritten : failure? (writeAll (system []).replace (Made.output sharedMade).files usedTree).1.outcome = none := by
    decide +kernel
  obtain ⟨paths, hpaths⟩ := Outcome.failure?_eq_none_iff.mp hwritten
  have hsize : (Made.output sharedMade).size = 4 := by decide +kernel
  have hrun : userRequest.run "here" (pure (.ok sharedSchema)) (system []).replace usedTree = _ :=
    run_of_ok hprepared rfl
  have hresult := (outcome_concluded hprepared).trans (congrArg (Except.map _) hpaths)
  obtain ⟨hfound, again, hagain, hsame⟩ := regeneration_changes_nothing rfl hrun hresult
  exact ⟨_, _, _, again, hrun, hresult, hsize, hfound, hagain, hsame⟩

end ApiProxy
