import ApiProxy.Proofs.Disk.Replacement

/-! How a replacement goes. The directories are ensured, the content is put at the place of the temporary file, and from
there it is moved to the place of the target; each step may be the last one. What the steps do to the tree they do at
those places alone, so a file elsewhere stays, and the one that is in danger is a file where the temporary file goes. -/

namespace ApiProxy

abbrev FilePath.temporary (path : FilePath) : FilePath := path.withExtension FileSystem.temporaryExtension

/-- The directories that a file lies in, the nearest one first. -/
def FilePath.directories (path : FilePath) : List FilePath := path.parent?.toList.flatMap FilePath.ancestors

namespace FileSystem

/-! ### The steps in their order -/

variable {σ : Type}

/-- Where the replacement of a file ends: the step that fails and what it is reported with, or the last one. -/
inductive Course (disk : FileSystem (StateM σ)) (state : σ) (path : FilePath) (content : String) :
    Except Failure Unit → σ → Prop where
  | directories {outer : FilePath} {cause : SystemError} {ensured : σ} (houter : path.parent? = some outer)
      (hensured : disk.ensureDirectories path.directories state = (.error cause, ensured)) :
      Course disk state path content (.error (.unwritable outer.text cause)) ensured
  | temporary {cause : SystemError} {ensured left : σ}
      (hensured : disk.ensureDirectories path.directories state = (.ok (), ensured))
      (hwrite : disk.write path.temporary content ensured = (.error cause, left)) :
      Course disk state path content (.error (.unwritable path.temporary.text cause)) left
  | target {cause : SystemError} {ensured written left : σ}
      (hensured : disk.ensureDirectories path.directories state = (.ok (), ensured))
      (hwrite : disk.write path.temporary content ensured = (.ok (), written))
      (hrename : disk.rename path.temporary path written = (.error cause, left)) :
      Course disk state path content (.error (.unwritable path.text cause)) left
  | done {ensured written after : σ}
      (hensured : disk.ensureDirectories path.directories state = (.ok (), ensured))
      (hwrite : disk.write path.temporary content ensured = (.ok (), written))
      (hrename : disk.rename path.temporary path written = (.ok (), after)) :
      Course disk state path content (.ok ()) after

/-- The step that ensures the directories, with the report of the nearest one. -/
theorem ensureParent_cases (disk : FileSystem (StateM σ)) (state : σ) (path : FilePath) :
    (∃ ensured, disk.ensureDirectories path.directories state = (.ok (), ensured) ∧
      disk.ensureParent path state = (.ok (), ensured)) ∨
    ∃ outer cause ensured, path.parent? = some outer ∧
      disk.ensureDirectories path.directories state = (.error cause, ensured) ∧
      disk.ensureParent path state = (.error (.unwritable outer.text cause), ensured) := by
  rw [ensureParent, FilePath.directories]
  cases path.parent? with
  | none => exact Or.inl ⟨state, rfl, rfl⟩
  | some outer =>
      rw [Option.toList_some, List.flatMap_singleton]
      dsimp only
      rw [stateM_bind_apply]
      rcases disk.ensureDirectories outer.ancestors state with ⟨cause | _, ensured⟩
      · exact Or.inr ⟨outer, cause, ensured, rfl, rfl, rfl⟩
      · exact Or.inl ⟨ensured, rfl, rfl⟩

theorem course_replace (disk : FileSystem (StateM σ)) (state : σ) (path : FilePath) (content : String) :
    disk.Course state path content (disk.replace path content state).1 (disk.replace path content state).2 := by
  rw [replace, stateM_bind_apply]
  rcases ensureParent_cases disk state path with ⟨ensured, hensured, hparent⟩ |
    ⟨outer, cause, ensured, houter, hensured, hparent⟩
  · rw [hparent]
    dsimp only
    rw [stateM_bind_apply]
    rcases hwrite : disk.write path.temporary content ensured with ⟨cause | _, written⟩
    · exact .temporary hensured hwrite
    · dsimp only
      rw [stateM_bind_apply]
      rcases hrename : disk.rename path.temporary path written with ⟨cause | _, after⟩
      · exact .target hensured hwrite hrename
      · exact .done hensured hwrite hrename
  · rw [hparent]
    exact .directories houter hensured

end FileSystem

namespace FileTree

variable {tree ensured written after : FileTree} {place other : List String} {current : List String}
  {path newPath : FilePath} {paths wider : List FilePath} {content : String}

/-! ### Where paths point -/

/-- The path has a name at its end, and the name belongs at the place. -/
def PointsTo (tree : FileTree) (current : List String) (path : FilePath) (place : List String) : Prop :=
  ∃ target, tree.target current path = .ok target ∧ target.name? ≠ none ∧ target.place = place

theorem PointsTo.unique (h : tree.PointsTo current path place) (hother : tree.PointsTo current path other) :
    place = other := by
  obtain ⟨target, htarget, _, rfl⟩ := h
  obtain ⟨twin, htwin, _, rfl⟩ := hother
  cases htarget.symm.trans htwin
  rfl

theorem PointsTo.place_ne_nil (h : tree.PointsTo current path place) : place ≠ [] := by
  obtain ⟨target, _, hname, rfl⟩ := h
  exact Target.place_ne_nil hname

theorem target_of_keepsDirectories (hkeeps : tree.KeepsDirectories after) {target : Target}
    (h : tree.target current path = .ok target) : after.target current path = .ok target := by
  unfold FileTree.target at h ⊢
  obtain ⟨_, hpath, h⟩ := Outcome.bind_eq_ok_iff.mp h
  rw [hpath, Outcome.ok_bind]
  dsimp only at h ⊢
  cases hreversed : (names path).reverse.dropWhile (· = "") with
  | nil =>
      rw [hreversed] at h
      exact h
  | cons last earlier =>
      rw [hreversed] at h
      obtain ⟨directory, hwalk, h⟩ := Outcome.bind_eq_ok_iff.mp h
      obtain ⟨_, henter, h⟩ := Outcome.bind_eq_ok_iff.mp h
      dsimp only
      rw [walk_of_keepsDirectories hkeeps hwalk, Outcome.ok_bind,
        enter_eq_ok_iff.mpr (hkeeps directory (enter_eq_ok_iff.mp henter)), Outcome.ok_bind]
      exact h

theorem PointsTo.keep (h : tree.PointsTo current path place) (hkeeps : tree.KeepsDirectories after) :
    after.PointsTo current path place := by
  obtain ⟨target, htarget, hname, hplace⟩ := h
  exact ⟨target, target_of_keepsDirectories hkeeps htarget, hname, hplace⟩

/-- The path has a name at its end and nothing behind it, and the name belongs at the place. -/
def Denotes (tree : FileTree) (current : List String) (path : FilePath) (place : List String) : Prop :=
  ∃ directory part, tree.target current path = .ok ⟨directory, some part, false⟩ ∧ directory ++ [part] = place

theorem Denotes.pointsTo (h : tree.Denotes current path place) : tree.PointsTo current path place := by
  obtain ⟨directory, part, htarget, hplace⟩ := h
  exact ⟨_, htarget, Option.some_ne_none part, hplace⟩

theorem Denotes.keep (h : tree.Denotes current path place) (hkeeps : tree.KeepsDirectories after) :
    after.Denotes current path place := by
  obtain ⟨directory, part, htarget, hplace⟩ := h
  exact ⟨directory, part, target_of_keepsDirectories hkeeps htarget, hplace⟩

theorem denotes_of_target {target : Target} (h : tree.target current path = .ok target) (hname : target.name? ≠ none)
    (hslash : target.hasSlash = false) : tree.Denotes current path target.place := by
  obtain ⟨directory, name?, hasSlash⟩ := target
  obtain ⟨part, rfl⟩ := Option.ne_none_iff_exists'.mp hname
  cases hslash
  exact ⟨directory, part, h, rfl⟩

/-! ### What each step changes -/

/-- Nothing is changed but that directories come to places that the paths point to, where nothing was. -/
def AddsOn (tree after : FileTree) (current : List String) (paths : List FilePath) : Prop :=
  tree.Adds after fun place => ∃ path ∈ paths, after.PointsTo current path place

theorem AddsOn.keep (h : tree.AddsOn ensured current paths) (hkeeps : ensured.KeepsDirectories after)
    (hpaths : paths ⊆ wider) :
    tree.Adds ensured fun place => ∃ path ∈ wider, after.PointsTo current path place := by
  refine Adds.mono h ?_
  rintro place ⟨path, hpath, hpoints⟩
  exact ⟨path, hpaths hpath, hpoints.keep hkeeps⟩

theorem AddsOn.trans_of_subset (h : tree.AddsOn ensured current wider) (hnext : ensured.AddsOn after current paths)
    (hpaths : paths ⊆ wider) : tree.AddsOn after current wider :=
  (h.keep hnext.keepsDirectories (List.Subset.refl wider)).trans (hnext.keep (fun _ hplace => hplace) hpaths)

theorem addsOn_createDirectory (tree : FileTree) (current : List String) (path : FilePath) :
    tree.AddsOn ((system current).createDirectory path tree).2 current [path] := by
  cases hcreate : tree.createDirectory current path with
  | error cause =>
      rw [createDirectory_of_error hcreate]
      exact Adds.refl tree _
  | ok after =>
      have hcreated : (system current).createDirectory path tree = (.ok (), after) := createDirectory_of_ok hcreate
      obtain ⟨target, htarget, hname, hnone, rfl⟩ := createDirectory_eq_ok_iff.mp hcreate
      have hpoints : tree.PointsTo current path target.place := ⟨target, htarget, hname, rfl⟩
      have hne : tree.entry? target.place ≠ some .directory := by simp [hnone]
      have hkeeps := keepsDirectories_put hpoints.place_ne_nil .directory hne
      rw [hcreated]
      exact adds_put hpoints.place_ne_nil hnone ⟨path, List.mem_singleton_self path, hpoints.keep hkeeps⟩

/-- A disk that creates directories in its tree as a tree does adds nothing else while it ensures some. -/
theorem addsOn_ensureDirectories {σ : Type} {disk : FileSystem (StateM σ)} (view : σ → FileTree)
    (hcreate : ∀ path state, (view state).AddsOn (view (disk.createDirectory path state).2) current [path])
    (hlook : ∀ path state, view (disk.isDirectory path state).2 = view state) (state : σ) (paths : List FilePath) :
    (view state).AddsOn (view (disk.ensureDirectories paths state).2) current paths := by
  refine FileSystem.ensureDirectories_preserves
    (p := fun next => (view state).AddsOn (view next) current paths) ?_ ?_ (Adds.refl _ _)
  · intro path hpath next hnext
    exact hnext.trans_of_subset (hcreate path next) (by simpa using hpath)
  · intro path next hnext
    rwa [hlook]

/-- A file comes to the place of the path, and nothing else is changed. -/
theorem write_changes (h : tree.write current path content = .ok after) : tree.KeepsDirectories after ∧
    ∃ place, tree.Denotes current path place ∧ tree.entry? place ≠ some .directory ∧
      ∀ other, after.entry? other = if other = place then some (.file content) else tree.entry? other := by
  obtain ⟨target, htarget, hname, hslash, hfree, rfl⟩ := write_eq_ok_iff.mp h
  have hplace := Target.place_ne_nil hname
  exact ⟨keepsDirectories_put hplace _ hfree, target.place, denotes_of_target htarget hname hslash, hfree,
    entryAt_put tree hplace _⟩

/-- The file that a path points to goes to the place of another path, and nothing else is changed. -/
theorem rename_changes (h : tree.rename current path newPath = .ok after)
    (hsource : tree.Denotes current path place) (hcontent : tree.entry? place = some (.file content)) :
    tree.KeepsDirectories after ∧ ∃ newPlace, tree.Denotes current newPath newPlace ∧
      ∀ other, after.entry? other =
        if other = newPlace then some (.file content) else if other = place then none else tree.entry? other := by
  obtain ⟨source, target, found, hfound, htarget, hentry, hname, _, hslash, hfree, rfl⟩ := rename_eq_ok_iff.mp h
  obtain ⟨twin, htwin, hsourceName, rfl⟩ := hsource.pointsTo
  cases hfound.symm.trans htwin
  cases hentry.symm.trans hcontent
  have hchanged : ∀ other, entry? ((tree.remove source.place).put target.place (.file content)) other =
      if other = target.place then some (.file content)
      else if other = source.place then none else tree.entry? other := by
    intro other
    rw [entryAt_put _ (Target.place_ne_nil hname), entryAt_remove tree (Target.place_ne_nil hsourceName)]
  refine ⟨?_, target.place, denotes_of_target htarget hname hslash, hchanged⟩
  intro other hother
  rw [hchanged, if_neg, if_neg, hother]
  · rintro rfl
    rw [hother] at hcontent
    cases hcontent
  · rintro rfl
    exact hfree hother

/-! ### What is different afterwards -/

/-- From where it was written the content is moved to the target. -/
theorem moved_changes (hwrite : ensured.write current path.temporary content = .ok written)
    (hrename : written.rename current path.temporary path = .ok after) : ensured.KeepsDirectories after ∧
      ∃ spent place, after.Denotes current path.temporary spent ∧ after.Denotes current path place ∧
        ∀ other, after.entry? other =
          if other = place then some (.file content) else if other = spent then none else ensured.entry? other := by
  obtain ⟨hwrittenKeeps, spent, hspent, _, hwritten⟩ := write_changes hwrite
  have hcontent : written.entry? spent = some (.file content) := by rw [hwritten, if_pos rfl]
  obtain ⟨hkeeps, place, hplace, hafter⟩ := rename_changes hrename (hspent.keep hwrittenKeeps) hcontent
  refine ⟨fun other hother => hkeeps other (hwrittenKeeps other hother), spent, place,
    (hspent.keep hwrittenKeeps).keep hkeeps, hplace.keep hkeeps, fun other => ?_⟩
  rw [hafter, hwritten]
  split_ifs <;> rfl

theorem addsOn_of_ensured {outcome : Except SystemError Unit}
    (h : (system current).ensureDirectories paths tree = (outcome, ensured)) : tree.AddsOn ensured current paths := by
  have hadds := addsOn_ensureDirectories id (fun path tree => addsOn_createDirectory tree current path)
    (fun path tree => isDirectory_snd tree current path) tree paths
  rwa [h] at hadds

/-- What may be different at a place after a file was replaced, or was not. -/
inductive Difference (tree after : FileTree) (current : List String) (path : FilePath) (content : String)
    (place : List String) : Except Failure Unit → Prop where
  | directory {outcome : Except Failure Unit} (hnone : tree.entry? place = none)
      (hentry : after.entry? place = some .directory)
      (hpoints : ∃ outer ∈ path.directories, after.PointsTo current outer place) :
      Difference tree after current path content place outcome
  | replaced (hentry : after.entry? place = some (.file content)) (hpoints : after.PointsTo current path place) :
      Difference tree after current path content place (.ok ())
  | spent (hentry : after.entry? place = none) (hpoints : after.PointsTo current path.temporary place) :
      Difference tree after current path content place (.ok ())
  | leftover {failure : Failure} (hentry : after.entry? place = some (.file content))
      (hpoints : after.PointsTo current path.temporary place) :
      Difference tree after current path content place (.error failure)

variable {outcome : Except Failure Unit}

theorem AddsOn.difference (h : tree.AddsOn ensured current path.directories) (hkeeps : ensured.KeepsDirectories after)
    (hentry : after.entry? place = ensured.entry? place) :
    after.entry? place = tree.entry? place ∨ Difference tree after current path content place outcome := by
  rcases h.keep hkeeps (List.Subset.refl _) place with hsame | ⟨hpoints, hnone, hdirectory⟩
  · exact Or.inl (hentry.trans hsame)
  · exact Or.inr (.directory hnone (hentry.trans hdirectory) hpoints)

theorem difference_of_course (h : (system current).Course tree path content outcome after) (place : List String) :
    after.entry? place = tree.entry? place ∨ Difference tree after current path content place outcome := by
  cases h with
  | directories _ hensured => exact (addsOn_of_ensured hensured).difference (fun _ hkept => hkept) rfl
  | temporary hensured hwrite =>
      obtain ⟨_, rfl⟩ := system_write_eq_error_iff.mp hwrite
      exact (addsOn_of_ensured hensured).difference (fun _ hkept => hkept) rfl
  | target hensured hwrite hrename =>
      obtain ⟨_, rfl⟩ := system_rename_eq_error_iff.mp hrename
      replace hwrite := system_write_eq_ok_iff.mp hwrite
      obtain ⟨hkeeps, leftover, hleftover, _, hentries⟩ := write_changes hwrite
      by_cases hplace : place = leftover
      · subst hplace
        exact Or.inr (.leftover (by rw [hentries, if_pos rfl]) (hleftover.keep hkeeps).pointsTo)
      · exact (addsOn_of_ensured hensured).difference hkeeps (by rw [hentries, if_neg hplace])
  | done hensured hwrite hrename =>
      obtain ⟨hkeeps, spent, target, hspent, htarget, hentries⟩ :=
        moved_changes (system_write_eq_ok_iff.mp hwrite) (system_rename_eq_ok_iff.mp hrename)
      by_cases hplace : place = target
      · subst hplace
        exact Or.inr (.replaced (by rw [hentries, if_pos rfl]) htarget.pointsTo)
      by_cases hgone : place = spent
      · subst hgone
        exact Or.inr (.spent (by rw [hentries, if_neg hplace, if_pos rfl]) hspent.pointsTo)
      · exact (addsOn_of_ensured hensured).difference hkeeps (by rw [hentries, if_neg hplace, if_neg hgone])

/-- The content gets as far as the temporary file. -/
def Stages (tree : FileTree) (current : List String) (path : FilePath) (content : String) : Prop :=
  ∃ ensured written, (system current).ensureDirectories path.directories tree = (.ok (), ensured) ∧
    ensured.write current path.temporary content = .ok written

/-- A file elsewhere is lost exactly if the content is put in its place and is another one or is moved on. -/
theorem stays_iff_of_course (h : (system current).Course tree path content outcome after) {kept : String}
    (hfile : tree.entry? place = some (.file kept)) (helsewhere : ¬after.PointsTo current path place) :
    after.entry? place = some (.file kept) ↔ (after.PointsTo current path.temporary place →
      ¬tree.Stages current path content ∨ outcome ≠ .ok () ∧ kept = content) := by
  cases h with
  | directories _ hensured =>
      refine iff_of_true ((addsOn_of_ensured hensured).of_some hfile) fun _ => Or.inl ?_
      rintro ⟨_, _, hother, _⟩
      cases hensured.symm.trans hother
  | temporary hensured hwrite =>
      obtain ⟨hrefused, rfl⟩ := system_write_eq_error_iff.mp hwrite
      refine iff_of_true ((addsOn_of_ensured hensured).of_some hfile) fun _ => Or.inl ?_
      rintro ⟨_, _, hother, hwritten⟩
      cases hensured.symm.trans hother
      cases hrefused.symm.trans hwritten
  | target hensured hwrite hrename =>
      obtain ⟨_, rfl⟩ := system_rename_eq_error_iff.mp hrename
      replace hwrite := system_write_eq_ok_iff.mp hwrite
      have hstages : tree.Stages current path content := ⟨_, _, hensured, hwrite⟩
      obtain ⟨hkeeps, leftover, hleftover, _, hentries⟩ := write_changes hwrite
      rw [hentries]
      split_ifs with hplace
      · subst hplace
        have hpoints := (hleftover.keep hkeeps).pointsTo
        simp [hstages, hpoints, eq_comm]
      · refine iff_of_true ((addsOn_of_ensured hensured).of_some hfile) fun hpoints => ?_
        exact absurd (hpoints.unique (hleftover.keep hkeeps).pointsTo) hplace
  | done hensured hwrite hrename =>
      have hstages : tree.Stages current path content := ⟨_, _, hensured, system_write_eq_ok_iff.mp hwrite⟩
      obtain ⟨hkeeps, spent, target, hspent, htarget, hentries⟩ :=
        moved_changes (system_write_eq_ok_iff.mp hwrite) (system_rename_eq_ok_iff.mp hrename)
      have hnotTarget : place ≠ target := by
        rintro rfl
        exact helsewhere htarget.pointsTo
      rw [hentries, if_neg hnotTarget]
      split_ifs with hplace
      · subst hplace
        simp [hstages, hspent.pointsTo]
      · refine iff_of_true ((addsOn_of_ensured hensured).of_some hfile) fun hpoints => ?_
        exact absurd (hpoints.unique hspent.pointsTo) hplace

/-- Whatever replacing a file comes to, each file elsewhere stays as it is, up to one in the place of the temporary
file, and that one stays exactly if the content is not put there, or is what it holds already and is not moved on.
Besides, there are at most new directories for the target and, after a failure, the temporary file. -/
theorem other_files_stay_iff (tree : FileTree) (current : List String) (path : FilePath) (content : String) :
    ∃ outcome after, (system current).replace path content tree = (outcome, after) ∧
      (∀ place kept, tree.entry? place = some (.file kept) → ¬after.PointsTo current path place →
        (after.entry? place = some (.file kept) ↔ (after.PointsTo current path.temporary place →
          ¬tree.Stages current path content ∨ outcome ≠ .ok () ∧ kept = content))) ∧
      ∀ place, after.entry? place = tree.entry? place ∨
        Difference tree after current path content place outcome := by
  have hcourse := (system current).course_replace tree path content
  generalize (system current).replace path content tree = result at hcourse ⊢
  obtain ⟨outcome, after⟩ := result
  exact ⟨outcome, after, rfl, fun _ _ => stays_iff_of_course hcourse, difference_of_course hcourse⟩

/-- A file that has the name of the temporary file. -/
def crowdedTree : FileTree := ⟨[(["index.tmp"], .file "keep")]⟩

theorem neighbour_is_lost : crowdedTree.entry? ["index.tmp"] = some (.file "keep") ∧
    ∃ after, (system []).replace ⟨"/index.ts"⟩ "new" crowdedTree = (.ok (), after) ∧
      ¬after.PointsTo [] ⟨"/index.ts"⟩ ["index.tmp"] ∧ after.entry? ["index.tmp"] = none := by
  refine ⟨rfl, ⟨[(["index.ts"], .file "new")]⟩, rfl, fun hpoints => ?_, rfl⟩
  have htarget : PointsTo ⟨[(["index.ts"], .file "new")]⟩ [] ⟨"/index.ts"⟩ ["index.ts"] :=
    ⟨⟨[], some "index.ts", false⟩, rfl, Option.some_ne_none _, rfl⟩
  exact absurd (hpoints.unique htarget) (by decide)

end FileTree

end ApiProxy
