import ApiProxy.Proofs.Disk.Directories
import ApiProxy.Proofs.OutputPaths

/-! Replacing a file in a tree. The directory of the file is ensured first; in the tree that this leads to, the file
and the temporary file beside it need room, and then the file holds the content and the temporary file is gone. A file
that was replaced stays as it is when files elsewhere are replaced, and replacing it with the content that it holds
changes nothing. -/

namespace ApiProxy.FileTree

variable {tree after : FileTree} {place other : List String} {current : List String} {path newPath directory : FilePath}
  {name content : String}

/-! ### The three steps -/

theorem write_eq_ok_iff : tree.write current path content = .ok after ↔
    ∃ target, tree.target current path = .ok target ∧ target.name? ≠ none ∧ target.hasSlash = false ∧
      tree.entry? target.place ≠ some .directory ∧ after = tree.put target.place (.file content) := by
  unfold write
  cases tree.target current path with
  | error cause => simp [bind, Except.bind]
  | ok target =>
      rw [Outcome.ok_bind]
      split_ifs with hbarred
      · refine iff_of_false (by simp) ?_
        rintro ⟨_, hsame, hname, hslash, hfree, _⟩
        cases hsame
        simp [hname, hslash, hfree] at hbarred
      · simp only [Bool.or_eq_true, decide_eq_true_eq, not_or, Bool.not_eq_true] at hbarred
        obtain ⟨⟨hname, hslash⟩, hfree⟩ := hbarred
        constructor
        · intro h
          exact ⟨target, rfl, hname, hslash, hfree, (Except.ok.inj h).symm⟩
        · rintro ⟨_, hsame, _, _, _, rfl⟩
          cases hsame
          rfl

theorem rename_eq_ok_iff : tree.rename current path newPath = .ok after ↔
    ∃ source target content, tree.target current path = .ok source ∧ tree.target current newPath = .ok target ∧
      tree.entry? source.place = some (.file content) ∧ target.name? ≠ none ∧ source.hasSlash = false ∧
      target.hasSlash = false ∧ tree.entry? target.place ≠ some .directory ∧
      after = (tree.remove source.place).put target.place (.file content) := by
  unfold rename
  constructor
  · intro h
    obtain ⟨source, hsource, h⟩ := Outcome.bind_eq_ok_iff.mp h
    obtain ⟨target, htarget, h⟩ := Outcome.bind_eq_ok_iff.mp h
    rcases hentry : tree.entry? source.place with _ | content | _
    · simp only [hentry] at h
      cases h
    · simp only [hentry] at h
      split_ifs at h with hname hslash hfree
      simp only [Bool.or_eq_true, not_or, Bool.not_eq_true] at hslash
      exact ⟨source, target, content, hsource, htarget, hentry, hname, hslash.1, hslash.2, hfree,
        (Except.ok.inj h).symm⟩
    · simp only [hentry] at h
      cases h
  · rintro ⟨source, target, content, hsource, htarget, hentry, hname, hsourceSlash, htargetSlash, hfree, rfl⟩
    simp only [hsource, htarget, Outcome.ok_bind, hentry, if_neg hname, hsourceSlash, htargetSlash, if_neg hfree,
      Bool.or_self, Bool.false_eq_true, if_false]

section Join

variable {part other : String} (hnamed : directory.IsNamed) (hpart : FilePath.IsName part)

include hnamed hpart

theorem write_join_eq_ok_iff : tree.write current (directory.join part) content = .ok after ↔
    checkPath (directory.join part) = .ok () ∧ checkName part = .ok () ∧
      ∃ place, tree.Opens current directory place ∧ tree.entry? (place ++ [part]) ≠ some .directory ∧
        after = tree.put (place ++ [part]) (.file content) := by
  rw [write_eq_ok_iff]
  constructor
  · rintro ⟨target, htarget, _, _, hfree, rfl⟩
    obtain ⟨hpath, hcheck, place, hopens, rfl⟩ := (target_join_eq_ok_iff hnamed hpart).mp htarget
    exact ⟨hpath, hcheck, place, hopens, hfree, rfl⟩
  · rintro ⟨hpath, hcheck, place, hopens, hfree, rfl⟩
    have htarget := (target_join_eq_ok_iff hnamed hpart).mpr ⟨hpath, hcheck, place, hopens, rfl⟩
    exact ⟨_, htarget, Option.some_ne_none part, rfl, hfree, rfl⟩

/-- A file gets another name in its directory. -/
theorem rename_join_eq_ok_iff (hother : FilePath.IsName other) :
    tree.rename current (directory.join part) (directory.join other) = .ok after ↔
      checkPath (directory.join part) = .ok () ∧ checkName part = .ok () ∧
        checkPath (directory.join other) = .ok () ∧ checkName other = .ok () ∧
        ∃ place content, tree.Opens current directory place ∧
          tree.entry? (place ++ [part]) = some (.file content) ∧
          tree.entry? (place ++ [other]) ≠ some .directory ∧
          after = (tree.remove (place ++ [part])).put (place ++ [other]) (.file content) := by
  rw [rename_eq_ok_iff]
  constructor
  · rintro ⟨source, target, content, hsource, htarget, hcontent, _, _, _, hfree, rfl⟩
    obtain ⟨hpath, hcheck, place, hopens, rfl⟩ := (target_join_eq_ok_iff hnamed hpart).mp hsource
    obtain ⟨hotherPath, hotherCheck, _, hotherOpens, rfl⟩ := (target_join_eq_ok_iff hnamed hother).mp htarget
    obtain rfl := hopens.unique hotherOpens
    exact ⟨hpath, hcheck, hotherPath, hotherCheck, place, content, hopens, hcontent, hfree, rfl⟩
  · rintro ⟨hpath, hcheck, hotherPath, hotherCheck, place, content, hopens, hcontent, hfree, rfl⟩
    have hsource := (target_join_eq_ok_iff hnamed hpart).mpr ⟨hpath, hcheck, place, hopens, rfl⟩
    have htarget := (target_join_eq_ok_iff hnamed hother).mpr ⟨hotherPath, hotherCheck, place, hopens, rfl⟩
    exact ⟨_, _, content, hsource, htarget, hcontent, Option.some_ne_none other, rfl, rfl, hfree, rfl⟩

end Join

/-! ### Replacing -/

theorem change_of_ok {next : FileTree → Except SystemError FileTree} (h : next tree = .ok after) :
    change next tree = (.ok (), after) := by
  rw [change, h]

theorem change_of_error {next : FileTree → Except SystemError FileTree} {cause : SystemError}
    (h : next tree = .error cause) : change next tree = (.error cause, tree) := by
  rw [change, h]

theorem change_eq_ok_iff {next : FileTree → Except SystemError FileTree} :
    change next tree = (.ok (), after) ↔ next tree = .ok after := by
  constructor
  · intro h
    rw [change] at h
    cases hnext : next tree <;> rw [hnext] at h <;> cases h
    rfl
  · exact change_of_ok

theorem change_eq_error_iff {next : FileTree → Except SystemError FileTree} {cause : SystemError} :
    change next tree = (.error cause, after) ↔ next tree = .error cause ∧ after = tree := by
  constructor
  · intro h
    rw [change] at h
    cases hnext : next tree <;> rw [hnext] at h <;> cases h
    exact ⟨rfl, rfl⟩
  · rintro ⟨hnext, rfl⟩
    exact change_of_error hnext

theorem system_write (current : List String) (path : FilePath) (content : String) :
    (system current).write path content = change fun tree => tree.write current path content := rfl

theorem system_rename (current : List String) (path newPath : FilePath) :
    (system current).rename path newPath = change fun tree => tree.rename current path newPath := rfl

theorem system_write_eq_ok_iff :
    (system current).write path content tree = (.ok (), after) ↔ tree.write current path content = .ok after := by
  rw [system_write, change_eq_ok_iff]

theorem system_write_eq_error_iff {cause : SystemError} :
    (system current).write path content tree = (.error cause, after) ↔
      tree.write current path content = .error cause ∧ after = tree := by
  rw [system_write, change_eq_error_iff]

theorem system_rename_eq_ok_iff :
    (system current).rename path newPath tree = (.ok (), after) ↔ tree.rename current path newPath = .ok after := by
  rw [system_rename, change_eq_ok_iff]

theorem system_rename_eq_error_iff {cause : SystemError} :
    (system current).rename path newPath tree = (.error cause, after) ↔
      tree.rename current path newPath = .error cause ∧ after = tree := by
  rw [system_rename, change_eq_error_iff]

/-- The steps of a replacement on a tree. -/
theorem replace_eq (tree : FileTree) (current : List String) (path : FilePath) (content : String) :
    (system current).replace path content tree =
      match (system current).ensureParent path tree with
      | (.error failure, ensured) => (.error failure, ensured)
      | (.ok (), ensured) =>
        match ensured.write current (path.withExtension FileSystem.temporaryExtension) content with
        | .error cause =>
          (.error (.unwritable (path.withExtension FileSystem.temporaryExtension).text cause), ensured)
        | .ok written =>
          match written.rename current (path.withExtension FileSystem.temporaryExtension) path with
          | .error cause => (.error (.unwritable path.text cause), written)
          | .ok after => (.ok (), after) := by
  rw [FileSystem.replace, stateM_bind_apply]
  obtain ⟨failure | _, ensured⟩ := (system current).ensureParent path tree
  · rfl
  dsimp only
  rw [system_write, stateM_bind_apply]
  cases hwrite : ensured.write current (path.withExtension FileSystem.temporaryExtension) content with
  | error cause =>
      rw [change_of_error hwrite]
      rfl
  | ok written =>
      rw [change_of_ok hwrite, system_rename]
      dsimp only
      rw [stateM_bind_apply]
      cases hrename : written.rename current (path.withExtension FileSystem.temporaryExtension) path with
      | error cause =>
          rw [change_of_error hrename]
          rfl
      | ok after =>
          rw [change_of_ok hrename]
          rfl

/-- A file is replaced where its parent is ensured and then both changes of the tree succeed. -/
theorem replace_eq_ok_iff : (system current).replace path content tree = (.ok (), after) ↔
    ((system current).ensureParent path tree).1 = .ok () ∧
      ∃ written, ((system current).ensureParent path tree).2.write current
          (path.withExtension FileSystem.temporaryExtension) content = .ok written ∧
        written.rename current (path.withExtension FileSystem.temporaryExtension) path = .ok after := by
  rw [replace_eq]
  obtain ⟨failure | _, ensured⟩ := (system current).ensureParent path tree
  · exact iff_of_false nofun nofun
  dsimp only
  cases ensured.write current (path.withExtension FileSystem.temporaryExtension) content with
  | error cause => exact iff_of_false nofun (by simp)
  | ok written =>
      dsimp only
      cases hrename : written.rename current (path.withExtension FileSystem.temporaryExtension) path with
      | error cause => exact iff_of_false nofun (by simp [hrename])
      | ok renamed =>
          constructor
          · intro h
            cases h
            exact ⟨rfl, written, rfl, hrename⟩
          · rintro ⟨_, _, hsame, hrenamed⟩
            cases hsame
            cases hrename.symm.trans hrenamed
            rfl

/-! ### An index file -/

theorem temporary_eq (hnamed : directory.IsNamed) :
    (directory.join "index.ts").withExtension FileSystem.temporaryExtension = directory.join "index.tmp" := by
  obtain ⟨last, hlast, hends⟩ := hnamed
  exact hends.withExtension_join hlast isName_index FilePath.isName_temporary (by decide +kernel)

theorem index_ne_temporary : "index.ts" ≠ "index.tmp" := by decide

theorem checkName_index : checkName "index.ts" = .ok () := if_neg (by decide +kernel)

theorem checkName_temporary : checkName "index.tmp" = .ok () := if_neg (by decide +kernel)

/-- The directory is open, and the index file and the temporary file beside it can be asked for. -/
structure Fits (tree : FileTree) (current : List String) (directory : FilePath) (place : List String) : Prop where
  opens : tree.Opens current directory place
  target_path : checkPath (directory.join "index.ts") = .ok ()
  temporary_path : checkPath (directory.join "index.tmp") = .ok ()

theorem Fits.keep (h : tree.Fits current directory place) (hkeeps : tree.KeepsDirectories after) :
    after.Fits current directory place :=
  ⟨h.opens.keep hkeeps, h.target_path, h.temporary_path⟩

/-- Both files can be written. -/
structure Room (tree : FileTree) (current : List String) (directory : FilePath) (place : List String) : Prop
    extends tree.Fits current directory place where
  target_free : tree.entry? (place ++ ["index.ts"]) ≠ some .directory
  temporary_free : tree.entry? (place ++ ["index.tmp"]) ≠ some .directory

/-- The tree after the content went to the temporary file and the temporary file to the place of the index file. -/
def settle (tree : FileTree) (place : List String) (content : String) : FileTree :=
  ((tree.put (place ++ ["index.tmp"]) (.file content)).remove (place ++ ["index.tmp"])).put (place ++ ["index.ts"])
    (.file content)

theorem entryAt_settle (tree : FileTree) (place : List String) (content : String) (other : List String) :
    entry? (tree.settle place content) other =
      if other = place ++ ["index.ts"] then some (.file content)
      else if other = place ++ ["index.tmp"] then none else tree.entry? other := by
  rw [settle, entryAt_put _ (concat_ne_nil _ _), entryAt_remove _ (concat_ne_nil _ _),
    entryAt_put _ (concat_ne_nil _ _)]
  split_ifs <;> rfl

theorem ensureParent_eq (hnamed : directory.IsNamed) (hname : FilePath.IsName name) (tree : FileTree)
    (current : List String) :
    (system current).ensureParent (directory.join name) tree =
      (((system current).ensureDirectories directory.ancestors tree).1.mapError (.unwritable directory.text),
        ((system current).ensureDirectories directory.ancestors tree).2) := by
  obtain ⟨last, hlast, hends⟩ := hnamed
  rw [FileSystem.ensureParent, hends.parent?_join hlast hname]
  rfl

theorem Room.written (h : tree.Room current directory place) (content : String) :
    (tree.put (place ++ ["index.tmp"]) (.file content)).Room current directory place := by
  refine ⟨h.toFits.keep (keepsDirectories_put (concat_ne_nil place _) (.file content) h.temporary_free), ?_, ?_⟩
  · rw [entryAt_put_concat, if_neg index_ne_temporary]
    exact h.target_free
  · rw [entryAt_put_concat, if_pos rfl]
    simp

/-- An index file is replaced exactly if its directory can be ensured and there is room in it. -/
theorem replace_index_iff (hnamed : directory.IsNamed) :
    (system current).replace (directory.join "index.ts") content tree = (.ok (), after) ↔
      ((system current).ensureDirectories directory.ancestors tree).1 = .ok () ∧
        ∃ place, ((system current).ensureDirectories directory.ancestors tree).2.Room current directory place ∧
          after = ((system current).ensureDirectories directory.ancestors tree).2.settle place content := by
  rw [replace_eq_ok_iff, ensureParent_eq hnamed isName_index, Outcome.mapError_eq_ok_iff, temporary_eq hnamed]
  generalize ((system current).ensureDirectories directory.ancestors tree).2 = next
  apply and_congr_right
  intro _
  constructor
  · rintro ⟨written, hwrite, hrename⟩
    obtain ⟨htemporaryPath, _, place, hopens, htemporary, rfl⟩ :=
      (write_join_eq_ok_iff hnamed FilePath.isName_temporary).mp hwrite
    obtain ⟨_, _, htargetPath, _, _, found, hwrittenOpens, hfound, hfree, rfl⟩ :=
      (rename_join_eq_ok_iff hnamed FilePath.isName_temporary isName_index).mp hrename
    have hkeeps := keepsDirectories_put (concat_ne_nil place _) (.file content) htemporary
    obtain rfl := (hopens.keep hkeeps).unique hwrittenOpens
    rw [entryAt_put_concat, if_pos rfl] at hfound
    rw [entryAt_put_concat, if_neg index_ne_temporary] at hfree
    cases hfound
    exact ⟨place, ⟨⟨hopens, htargetPath, htemporaryPath⟩, hfree, htemporary⟩, rfl⟩
  · rintro ⟨place, hroom, rfl⟩
    have hwritten := hroom.written content
    refine ⟨next.put (place ++ ["index.tmp"]) (.file content), ?_, ?_⟩
    · apply (write_join_eq_ok_iff hnamed FilePath.isName_temporary).mpr
      exact ⟨hroom.temporary_path, checkName_temporary, place, hroom.opens, hroom.temporary_free, rfl⟩
    · apply (rename_join_eq_ok_iff hnamed FilePath.isName_temporary isName_index).mpr
      refine ⟨hroom.temporary_path, checkName_temporary, hroom.target_path, checkName_index, place, content,
        hwritten.opens, ?_, hwritten.target_free, rfl⟩
      rw [entryAt_put_concat, if_pos rfl]

theorem Room.keepsDirectories_settle (h : tree.Room current directory place) (content : String) :
    tree.KeepsDirectories (tree.settle place content) := by
  intro other hother
  rw [entryAt_settle, if_neg, if_neg, hother]
  · rintro rfl
    exact h.temporary_free hother
  · rintro rfl
    exact h.target_free hother

/-! ### A file that was replaced -/

/-- The index file of an open directory holds the content, and no temporary file is beside it. -/
structure Holds (tree : FileTree) (current : List String) (directory : FilePath) (place : List String)
    (content : String) : Prop extends tree.Fits current directory place where
  file : tree.entry? (place ++ ["index.ts"]) = some (.file content)
  clear : tree.entry? (place ++ ["index.tmp"]) = none

theorem Room.holds (h : tree.Room current directory place) (content : String) :
    (tree.settle place content).Holds current directory place content := by
  have hne : place ++ ["index.tmp"] ≠ place ++ ["index.ts"] := fun heq =>
    index_ne_temporary (List.cons.inj (List.append_cancel_left heq)).1.symm
  refine ⟨h.toFits.keep (h.keepsDirectories_settle content), ?_, ?_⟩
  · rw [entryAt_settle, if_pos rfl]
  · rw [entryAt_settle, if_neg hne, if_pos rfl]

theorem Holds.room (h : tree.Holds current directory place content) : tree.Room current directory place := by
  refine ⟨h.toFits, ?_, ?_⟩
  · rw [h.file]
    simp
  · rw [h.clear]
    simp

theorem Holds.same (h : tree.Holds current directory place content) (hsame : tree.Same after) :
    after.Holds current directory place content :=
  ⟨h.toFits.keep hsame.keepsDirectories, (hsame _).symm.trans h.file, (hsame _).symm.trans h.clear⟩

/-- Directories that are added elsewhere do not matter. -/
theorem Holds.adds {new : List String → Prop} (h : tree.Holds current directory place content)
    (hadds : tree.Adds after new) (hnew : ¬new (place ++ ["index.tmp"])) :
    after.Holds current directory place content :=
  ⟨h.toFits.keep hadds.keepsDirectories, hadds.of_some h.file, (hadds.of_not hnew).trans h.clear⟩

/-- A file that is replaced in another directory does not matter. -/
theorem Holds.settle {otherDirectory : FilePath} {otherContent : String}
    (h : tree.Holds current directory place content) (hroom : tree.Room current otherDirectory other)
    (hother : other ≠ place) : (tree.settle other otherContent).Holds current directory place content := by
  have helsewhere (part otherPart : String) : place ++ [part] ≠ other ++ [otherPart] := by
    intro heq
    exact hother (List.append_inj_left' heq rfl).symm
  refine ⟨h.toFits.keep (hroom.keepsDirectories_settle otherContent), ?_, ?_⟩
  · rw [entryAt_settle, if_neg (helsewhere _ _), if_neg (helsewhere _ _)]
    exact h.file
  · rw [entryAt_settle, if_neg (helsewhere _ _), if_neg (helsewhere _ _)]
    exact h.clear

theorem Holds.settle_same (h : tree.Holds current directory place content) :
    (tree.settle place content).Same tree := by
  intro other
  rw [entryAt_settle]
  split_ifs with htarget htemporary
  · rw [htarget, h.file]
  · rw [htemporary, h.clear]
  · rfl

/-- The content is what is found under the path, and nothing is found under that of the temporary file. -/
theorem Holds.find (hnamed : directory.IsNamed) (h : tree.Holds current directory place content) :
    tree.find current (directory.join "index.ts") = .ok (.file content) ∧
      tree.find current ((directory.join "index.ts").withExtension FileSystem.temporaryExtension) =
        .error .notFound := by
  constructor
  · rw [h.opens.find_join hnamed isName_index h.target_path checkName_index, h.file]
    rfl
  · rw [temporary_eq hnamed,
      h.opens.find_join hnamed FilePath.isName_temporary h.temporary_path checkName_temporary, h.clear]
    rfl

/-- Replacing a file with the content that it holds changes nothing. -/
theorem Holds.replace (hnamed : directory.IsNamed) (h : tree.Holds current directory place content) :
    ∃ after, (system current).replace (directory.join "index.ts") content tree = (.ok (), after) ∧ after.Same tree := by
  have hpath := checkPath_of_join hnamed isName_index h.target_path
  obtain ⟨hsame, hensured⟩ := h.opens.ensureDirectories hnamed
  refine ⟨tree.settle place content, ?_, h.settle_same⟩
  rw [replace_index_iff hnamed, hsame]
  exact ⟨hensured hpath, place, h.room, rfl⟩

end ApiProxy.FileTree
