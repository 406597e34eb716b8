import Mathlib.Data.List.Induction
import Mathlib.Tactic.SplitIfs
import ApiProxy.Proofs.Staging.Spelling
import ApiProxy.Staging

/-! Staged files as the history of what was staged. Each path holds the file that was staged for it last, under the
spelling and in the place of the first; each call gives back what its path held before. -/

namespace ApiProxy.StagedOutput

/-- Stages the files in turn and lists what each of them replaced. -/
def stageAll (output : StagedOutput) : List OutputFile → StagedOutput × List (Option OutputFile)
  | [] => (output, [])
  | file :: files =>
    let (next, replaced) := output.stage file
    let (last, results) := next.stageAll files
    (last, replaced :: results)

/-- The file that was staged for the path last. -/
def latest? (files : List OutputFile) (path : FilePath) : Option OutputFile :=
  files.reverse.find? fun file => file.path.same path

/-- Each path as it was spelled when it was staged first, in the order of these first times. -/
def firstSpellings : List OutputFile → List FilePath
  | [] => []
  | file :: files => file.path :: (firstSpellings files).filter fun later => !file.path.same later

/-! ### One step -/

theorem get?_cons (place : FilePath) (file : OutputFile) (entries : List (FilePath × OutputFile)) (path : FilePath) :
    get? ⟨(place, file) :: entries⟩ path = if place.same path then some file else get? ⟨entries⟩ path := by
  cases h : place.same path <;> simp [get?, h]

/-- A path that is staged holds the staged file; every other path holds what it held. -/
theorem get?_stage (output : StagedOutput) (file : OutputFile) (path : FilePath) :
    (output.stage file).1.get? path = if file.path.same path then some file else output.get? path := by
  obtain ⟨entries⟩ := output
  show get? ⟨putFile file entries⟩ path = _
  induction entries with
  | nil => exact get?_cons file.path file [] path
  | cons entry entries ih =>
      obtain ⟨place, earlier⟩ := entry
      rw [putFile]
      split_ifs with hplace hsame hsame
      · rw [get?_cons, FilePath.same_congr hplace, if_pos hsame]
      · rw [get?_cons, get?_cons, FilePath.same_congr hplace, if_neg hsame, if_neg hsame]
      · have hother : ¬place.same path = true := fun h =>
          hplace ((FilePath.same_congr h file.path).trans (by rw [FilePath.same_iff, FilePath.same_iff.mp hsame]))
        rw [get?_cons, if_neg hother, ih, if_pos hsame]
      · rw [get?_cons, get?_cons, ih, if_neg hsame]

/-- A place is added at the end exactly for a path that held nothing. -/
theorem paths_stage (output : StagedOutput) (file : OutputFile) :
    (output.stage file).1.paths = output.paths ++ if output.get? file.path = none then [file.path] else [] := by
  obtain ⟨entries⟩ := output
  show (putFile file entries).map Prod.fst = entries.map Prod.fst ++ _
  induction entries with
  | nil => rfl
  | cons entry entries ih =>
      obtain ⟨place, earlier⟩ := entry
      rw [putFile, get?_cons]
      by_cases hplace : place.same file.path = true
      · simp [hplace]
      · rw [if_neg hplace, if_neg hplace, List.map_cons, ih]
        rfl

/-! ### The whole history -/

theorem stageAll_append (output : StagedOutput) (files later : List OutputFile) :
    output.stageAll (files ++ later) =
      (((output.stageAll files).1.stageAll later).1,
        (output.stageAll files).2 ++ ((output.stageAll files).1.stageAll later).2) := by
  induction files generalizing output with
  | nil => rfl
  | cons file files ih => simp [stageAll, ih]

theorem stageAll_concat (output : StagedOutput) (files : List OutputFile) (file : OutputFile) :
    output.stageAll (files ++ [file]) =
      (((output.stageAll files).1.stage file).1,
        (output.stageAll files).2 ++ [(output.stageAll files).1.get? file.path]) :=
  stageAll_append output files [file]

theorem length_stageAll (output : StagedOutput) (files : List OutputFile) :
    (output.stageAll files).2.length = files.length := by
  induction files generalizing output with
  | nil => rfl
  | cons file files ih => simp [stageAll, ih]

theorem latest?_concat (files : List OutputFile) (file : OutputFile) (path : FilePath) :
    latest? (files ++ [file]) path = if file.path.same path then some file else latest? files path := by
  rw [latest?, List.reverse_concat, List.find?_cons]
  cases h : file.path.same path <;> rfl

theorem get?_stageAll (files : List OutputFile) (path : FilePath) :
    (stageAll .empty files).1.get? path = latest? files path := by
  induction files using List.reverseRecOn with
  | nil => rfl
  | append_singleton files file ih => rw [stageAll_concat, get?_stage, ih, latest?_concat]

theorem latest?_eq_none_iff {files : List OutputFile} {path : FilePath} :
    latest? files path = none ↔ ¬∃ file ∈ files, file.path.components = path.components := by
  simp [latest?, FilePath.same]

/-- A file staged last starts a place of its own exactly if no earlier one has its path. -/
theorem firstSpellings_concat (files : List OutputFile) (file : OutputFile) :
    firstSpellings (files ++ [file]) =
      firstSpellings files ++ if latest? files file.path = none then [file.path] else [] := by
  induction files with
  | nil => rfl
  | cons earlier files ih =>
      rw [List.cons_append, firstSpellings, ih, List.filter_append, firstSpellings, List.cons_append]
      have hnone : latest? (earlier :: files) file.path = none ↔
          earlier.path.same file.path = false ∧ latest? files file.path = none := by
        rw [latest?_eq_none_iff, latest?_eq_none_iff, List.exists_mem_cons_iff, not_or, ← Bool.not_eq_true,
          FilePath.same_iff]
      cases hsame : earlier.path.same file.path <;> by_cases hlatest : latest? files file.path = none <;>
        simp [hnone, hsame, hlatest]

theorem paths_stageAll (files : List OutputFile) : (stageAll .empty files).1.paths = firstSpellings files := by
  induction files using List.reverseRecOn with
  | nil => rfl
  | append_singleton files file ih => rw [stageAll_concat, paths_stage, ih, get?_stageAll, firstSpellings_concat]

/-- No path has two places. -/
theorem pairwise_firstSpellings (files : List OutputFile) :
    (firstSpellings files).Pairwise fun path later => path.same later = false := by
  induction files with
  | nil => exact .nil
  | cons file files ih =>
      refine .cons (fun later hlater => ?_) (ih.filter _)
      simpa using (List.mem_filter.mp hlater).2

theorem files_eq_map_get? (output : StagedOutput)
    (h : output.paths.Pairwise fun path later => path.same later = false) :
    output.files.map some = output.paths.map output.get? := by
  obtain ⟨entries⟩ := output
  induction entries with
  | nil => rfl
  | cons entry entries ih =>
      obtain ⟨place, file⟩ := entry
      obtain ⟨hplace, hentries⟩ := List.pairwise_cons.mp h
      have hlater : (paths ⟨entries⟩).map (get? ⟨(place, file) :: entries⟩) = (paths ⟨entries⟩).map (get? ⟨entries⟩) :=
        List.map_congr_left fun path hpath => by rw [get?_cons, if_neg (ne_true_of_eq_false (hplace path hpath))]
      have hown : get? ⟨(place, file) :: entries⟩ place = some file := by
        rw [get?_cons, if_pos (FilePath.same_iff.mpr rfl)]
      show some file :: (files ⟨entries⟩).map some = get? _ place :: (paths ⟨entries⟩).map (get? _)
      rw [hown, hlater, ih hentries]

/-- The places are as many as there are different paths. -/
theorem components_firstSpellings (files : List OutputFile) :
    (firstSpellings files).map FilePath.components = (files.map fun file => file.path.components).eraseDups := by
  induction files using List.reverseRecOn with
  | nil => rfl
  | append_singleton files file ih =>
      rw [firstSpellings_concat, List.map_append, ih, List.map_append, List.map_singleton, List.eraseDups_append]
      by_cases hknown : ∃ earlier ∈ files, earlier.path.components = file.path.components
      · rw [if_neg fun hnone => latest?_eq_none_iff.mp hnone hknown]
        simp [List.removeAll, hknown]
      · rw [if_pos (latest?_eq_none_iff.mpr hknown)]
        simp [List.removeAll, hknown, List.eraseDups_cons]

/-- However often and under whatever spelling files were staged, a path holds the file that was staged for it last, and
each call gave back what its path held before. There are as many places as different paths; they stand in the order in
which the paths came first, spelled as they were then, each with the latest file of its path. -/
theorem staging_keeps_latest (files : List OutputFile) :
    (∀ path, (stageAll .empty files).1.get? path = latest? files path) ∧
      (∀ earlier file later, files = earlier ++ file :: later → (stageAll .empty files).2[earlier.length]? =
        some ((stageAll .empty earlier).1.get? file.path)) ∧
      (stageAll .empty files).1.size = ((files.map fun file => file.path.components).eraseDups).length ∧
      ((stageAll .empty files).1.isEmpty = true ↔ (stageAll .empty files).1.size = 0) ∧
      (stageAll .empty files).1.files.map some = (firstSpellings files).map (latest? files) ∧
      (stageAll .empty files).1.paths = firstSpellings files ∧ FilePath.ComparedByComponents := by
  have hpaths := paths_stageAll files
  refine ⟨get?_stageAll files, ?_, ?_, ?_, ?_, hpaths, FilePath.comparedByComponents⟩
  · rintro earlier file later rfl
    rw [stageAll_append, List.getElem?_append_right (length_stageAll _ _).le, length_stageAll, Nat.sub_self]
    rfl
  · rw [← components_firstSpellings, List.length_map, ← hpaths, paths, List.length_map, size]
  · rw [isEmpty, size, List.isEmpty_iff, List.length_eq_zero_iff]
  · rw [files_eq_map_get? _ (hpaths ▸ pairwise_firstSpellings files), hpaths, funext (get?_stageAll files)]

/-- The last file has the path of the first under another spelling. -/
def respelled : List OutputFile :=
  [⟨⟨"a//b"⟩, "1", .model, "x"⟩, ⟨⟨"./a"⟩, "2", .api, "x"⟩, ⟨⟨"a/b/"⟩, "3", .api, "y"⟩]

theorem respelled_keeps_latest :
    (stageAll .empty respelled).1.get? ⟨"a/./b"⟩ = some ⟨⟨"a/b/"⟩, "3", .api, "y"⟩ ∧
      (stageAll .empty respelled).2[2]? = some (some ⟨⟨"a//b"⟩, "1", .model, "x"⟩) ∧
      (stageAll .empty respelled).1.size = 2 ∧ (stageAll .empty respelled).1.paths = [⟨"a//b"⟩, ⟨"./a"⟩] := by
  obtain ⟨hget, hresults, hsize, -, -, hpaths, -⟩ := staging_keeps_latest respelled
  have hlast : respelled = respelled.take 2 ++ ⟨⟨"a/b/"⟩, "3", .api, "y"⟩ :: [] := rfl
  refine ⟨(hget _).trans (by decide), ?_, hsize.trans (by decide), hpaths.trans (by decide)⟩
  exact (hresults _ _ _ hlast).trans (by decide)

end ApiProxy.StagedOutput
