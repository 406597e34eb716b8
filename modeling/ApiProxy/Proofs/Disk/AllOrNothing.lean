import ApiProxy.Proofs.Disk.Faults
import ApiProxy.Proofs.Disk.TemporaryPath

/-! What stands at the target while a file is replaced, on a disk on which any step may fail. The content comes there
whole or not at all: if a step fails, the path leads to what it led to before. The one thing that may come to the place
of the target is a directory, where the path of the target leads through a directory that is missing and is the target
itself. All this rests on a temporary file beside the target; a target that is its own temporary file is kept as well
only where nothing breaks off. -/

namespace ApiProxy.FileTree

variable {tree ensured written after : FileTree} {place directory found : List String} {current : List String}
  {path temporary : FilePath} {early rest : List String} {part other content kept : String} {entry : Entry}
  {failure : Failure}

/-! ### Finding what is at the end of a path -/

theorem find_eq_ok_iff : tree.find current path = .ok entry ↔ checkPath path = .ok () ∧
    ∃ place, tree.walk (start current path) (names path) = .ok place ∧ tree.entry? place = some entry := by
  rw [find]
  constructor
  · intro h
    obtain ⟨_, hpath, h⟩ := Outcome.bind_eq_ok_iff.mp h
    obtain ⟨place, hwalk, h⟩ := Outcome.bind_eq_ok_iff.mp h
    refine ⟨hpath, place, hwalk, ?_⟩
    cases hentry : tree.entry? place with
    | none =>
        rw [hentry] at h
        cases h
    | some found =>
        rw [hentry] at h
        exact congrArg some (Except.ok.inj h)
  · rintro ⟨hpath, place, hwalk, hentry⟩
    simp only [hpath, hwalk, Outcome.ok_bind, hentry]

/-- What is found stays found as long as no directory is lost and its own entry is kept. -/
theorem find_of_kept (hkeeps : tree.KeepsDirectories after)
    (hentry : ∀ place, tree.walk (start current path) (names path) = .ok place → tree.entry? place = some entry →
      after.entry? place = some entry)
    (h : tree.find current path = .ok entry) : after.find current path = .ok entry := by
  obtain ⟨hpath, place, hwalk, hfound⟩ := find_eq_ok_iff.mp h
  exact find_eq_ok_iff.mpr ⟨hpath, place, walk_of_keepsDirectories hkeeps hwalk, hentry place hwalk hfound⟩

theorem slash_notMem_of_mem_names {name : String} (h : name ∈ names path) : '/' ∉ name.toList := by
  obtain ⟨stretch, hstretch, rfl⟩ := List.mem_map.mp h
  rw [String.toList_ofList]
  exact FilePath.slash_notMem_of_mem_stretches hstretch

theorem hasSlash_of_target {target : Target} (h : tree.target current path = .ok target) :
    target.hasSlash = decide ((names path).reverse.head? = some "") := by
  unfold FileTree.target at h
  obtain ⟨_, _, h⟩ := Outcome.bind_eq_ok_iff.mp h
  dsimp only at h
  split at h
  · exact congrArg Target.hasSlash (Except.ok.inj h).symm
  · obtain ⟨_, _, h⟩ := Outcome.bind_eq_ok_iff.mp h
    obtain ⟨_, _, h⟩ := Outcome.bind_eq_ok_iff.mp h
    split_ifs at h
    · exact congrArg Target.hasSlash (Except.ok.inj h).symm
    · obtain ⟨_, _, h⟩ := Outcome.bind_eq_ok_iff.mp h
      exact congrArg Target.hasSlash (Except.ok.inj h).symm

/-- The steps to the name at the end of a path that has nothing behind it. -/
theorem exists_early_of_target (h : tree.target current path = .ok ⟨directory, some part, false⟩) :
    FilePath.IsName part ∧ checkPath path = .ok () ∧ tree.enter directory = .ok () ∧ checkName part = .ok () ∧
      ∃ early, names path = early ++ [part] ∧ tree.walk (start current path) early = .ok directory := by
  have hslash := of_decide_eq_false (hasSlash_of_target h).symm
  unfold FileTree.target at h
  obtain ⟨_, hpath, h⟩ := Outcome.bind_eq_ok_iff.mp h
  dsimp only at h
  cases hreversed : (names path).reverse with
  | nil =>
      rw [hreversed] at h
      cases h
  | cons last earlier =>
      have hnames : names path = earlier.reverse ++ [last] := by
        simpa using congrArg List.reverse hreversed
      have hmem : last ∈ names path := by simp [hnames]
      rw [hreversed] at h hslash
      have hempty : last ≠ "" := fun hlast => hslash (congrArg some hlast)
      rw [List.dropWhile_cons_of_neg (by simpa using hempty)] at h
      obtain ⟨next, hwalk, h⟩ := Outcome.bind_eq_ok_iff.mp h
      obtain ⟨_, henter, h⟩ := Outcome.bind_eq_ok_iff.mp h
      split_ifs at h with hdots
      · cases congrArg Target.name? (Except.ok.inj h)
      · obtain ⟨_, hname, h⟩ := Outcome.bind_eq_ok_iff.mp h
        cases congrArg Target.directory (Except.ok.inj h)
        cases congrArg Target.name? (Except.ok.inj h)
        simp only [Bool.or_eq_true, decide_eq_true_eq, not_or] at hdots
        exact ⟨⟨hempty, slash_notMem_of_mem_names hmem, hdots.1, hdots.2⟩, hpath, henter, hname,
          earlier.reverse, hnames, hwalk⟩

theorem Denotes.leads (h : tree.Denotes current path place) :
    checkPath path = .ok () ∧ tree.walk (start current path) (names path) = .ok place := by
  obtain ⟨directory, part, htarget, rfl⟩ := h
  obtain ⟨hpart, hpath, henter, hname, early, hnames, hwalk⟩ := exists_early_of_target htarget
  refine ⟨hpath, ?_⟩
  rw [walk_names hpart hnames, hwalk]
  simp only [Outcome.ok_bind, henter, hname]

theorem Denotes.find (h : tree.Denotes current path place) :
    tree.find current path = (tree.entry? place).elim (.error .notFound) .ok := by
  obtain ⟨hpath, hwalk⟩ := h.leads
  rw [FileTree.find, hpath, hwalk]
  simp only [Outcome.ok_bind]
  cases tree.entry? place <;> rfl

/-- Slashes and dots behind a name stay where they are, and there has to be a directory. -/
theorem walk_blanks (hblank : ∀ piece ∈ rest, piece = "" ∨ piece = ".") (h : tree.walk place rest = .ok found) :
    found = place ∧ (rest ≠ [] → tree.entry? place = some .directory) := by
  induction rest with
  | nil => exact ⟨(Except.ok.inj h).symm, fun hne => absurd rfl hne⟩
  | cons piece rest ih =>
      obtain ⟨hpiece, hrest⟩ := List.forall_mem_cons.mp hblank
      rw [FileTree.walk] at h
      obtain ⟨_, henter, h⟩ := Outcome.bind_eq_ok_iff.mp h
      rw [if_pos (by simpa using hpiece)] at h
      exact ⟨(ih hrest h).1, fun _ => enter_eq_ok_iff.mp henter⟩

/-- Where the path of a target leads to a file, the path beside it leads to another place or is the same path. -/
theorem eq_of_file (hbeside : FilePath.Beside path temporary early part other rest)
    (htemporary : tree.Denotes current temporary place)
    (hwalk : tree.walk (start current path) (names path) = .ok place)
    (hfile : tree.entry? place = some (.file kept)) : temporary = path := by
  obtain ⟨directory, name, htarget, rfl⟩ := htemporary
  obtain ⟨_, _, _, _, front, hnames, hfront⟩ := exists_early_of_target htarget
  have hstart : start current temporary = start current path := by rw [start, start, hbeside.isAbsolute]
  obtain ⟨rfl, hname⟩ := List.append_inj' (hnames.symm.trans hbeside.names_temporary) rfl
  obtain rfl := (List.cons.inj hname).1
  -- the walk to the target comes by the directory of the temporary file
  rw [hbeside.names_path, ← List.singleton_append, ← List.append_assoc, walk_append] at hwalk
  obtain ⟨next, hnext, hblanks⟩ := Outcome.bind_eq_ok_iff.mp hwalk
  obtain ⟨hplace, hdirectory⟩ := walk_blanks hbeside.blank hblanks
  rw [walk_append, ← hstart, hfront, Outcome.ok_bind, walk_name hbeside.isName_part] at hnext
  obtain ⟨_, _, hnext⟩ := Outcome.bind_eq_ok_iff.mp hnext
  obtain ⟨_, _, hnext⟩ := Outcome.bind_eq_ok_iff.mp hnext
  cases Except.ok.inj hnext
  apply hbeside.same
  · exact (List.cons.inj (List.append_cancel_left hplace)).1
  · by_contra hrest
    have hentry := hdirectory hrest
    rw [← hplace, hfile] at hentry
    cases hentry

theorem rename_self (h : tree.write current path content = .ok written) :
    ∃ after, written.rename current path path = .ok after := by
  obtain ⟨target, htarget, hname, hslash, hfree, rfl⟩ := write_eq_ok_iff.mp h
  have hplace := Target.place_ne_nil hname
  have hentry : entry? (tree.put target.place (.file content)) target.place = some (.file content) := by
    rw [entryAt_put tree hplace, if_pos rfl]
  have hkept := target_of_keepsDirectories (keepsDirectories_put hplace (.file content) hfree) htarget
  refine ⟨_, rename_eq_ok_iff.mpr ⟨target, target, content, hkept, hkept, hentry, hname, hslash, hslash, ?_, rfl⟩⟩
  rw [hentry]
  simp

/-! ### The target after each outcome -/

theorem AddsOn.find {paths : List FilePath} (h : tree.AddsOn after current paths)
    (hfind : tree.find current path = .ok entry) : after.find current path = .ok entry :=
  find_of_kept h.keepsDirectories (fun _ _ hentry => h.of_some hentry) hfind

/-- The content beside a target that is another path does not change what the path of the target leads to. -/
theorem find_of_write (hwrite : ensured.write current path.temporary content = .ok written)
    (hne : path.temporary ≠ path) (hfind : ensured.find current path = .ok entry) :
    written.find current path = .ok entry := by
  obtain ⟨early, part, other, rest, hbeside⟩ := (FilePath.beside_temporary path).resolve_left hne
  obtain ⟨hkeeps, leftover, hleftover, hfree, hentries⟩ := write_changes hwrite
  refine find_of_kept hkeeps (fun place hwalk hentry => ?_) hfind
  rw [hentries, if_neg, hentry]
  rintro rfl
  cases entry with
  | directory => exact hfree hentry
  | file kept => exact hne (eq_of_file hbeside hleftover hwalk hentry)

/-- The path of a target that could be replaced leads to the content, and that of the temporary file to nothing. -/
theorem find_of_moved (hwrite : ensured.write current path.temporary content = .ok written)
    (hrename : written.rename current path.temporary path = .ok after) :
    after.find current path = .ok (.file content) ∧
      (path.temporary ≠ path → after.find current path.temporary = .error .notFound) := by
  obtain ⟨_, spent, place, hspent, hplace, hentries⟩ := moved_changes hwrite hrename
  have hcontent : after.entry? place = some (.file content) := by rw [hentries, if_pos rfl]
  constructor
  · rw [hplace.find, hcontent]
    rfl
  · intro hne
    obtain ⟨early, part, other, rest, hbeside⟩ := (FilePath.beside_temporary path).resolve_left hne
    have hapart : spent ≠ place := by
      rintro rfl
      exact hne (eq_of_file hbeside hspent hplace.leads.2 hcontent)
    rw [hspent.find, hentries, if_neg hapart, if_pos rfl]
    rfl

/-- A target that is its own temporary file is not moved in vain. -/
theorem temporary_ne_of_rename {cause : SystemError}
    (hwrite : ensured.write current path.temporary content = .ok written)
    (hrename : written.rename current path.temporary path = .error cause) : path.temporary ≠ path := by
  intro hsame
  rw [hsame] at hwrite hrename
  obtain ⟨_, hrenamed⟩ := rename_self hwrite
  cases hrename.symm.trans hrenamed

/-- Where a target is its own temporary file, a tree on which nothing breaks off gets no more than directories by a
replacement that fails. -/
theorem addsOn_of_error (h : (system current).Course tree path content (.error failure) after)
    (hsame : path.temporary = path) : tree.AddsOn after current path.directories := by
  cases h with
  | directories _ hensured => exact addsOn_of_ensured hensured
  | temporary hensured hwrite =>
      obtain ⟨_, rfl⟩ := system_write_eq_error_iff.mp hwrite
      exact addsOn_of_ensured hensured
  | target _ hwrite hrename =>
      have hrename := (system_rename_eq_error_iff.mp hrename).1
      exact absurd hsame (temporary_ne_of_rename (system_write_eq_ok_iff.mp hwrite) hrename)

/-- What a replacement that fails leaves: directories on the way, and then at most another text in the temporary file,
which is not the target. -/
inductive Leaves (tree : FileTree) (current : List String) (path : FilePath) (after : FileTree) : Prop where
  | directories (hadds : tree.AddsOn after current path.directories)
  | beside {ensured : FileTree} {text : String} (hne : path.temporary ≠ path)
      (hadds : tree.AddsOn ensured current path.directories)
      (hwrite : ensured.write current path.temporary text = .ok after)

theorem Leaves.find (h : tree.Leaves current path after) (hfind : tree.find current path = .ok entry) :
    after.find current path = .ok entry := by
  cases h with
  | directories hadds => exact hadds.find hfind
  | beside hne hadds hwrite => exact find_of_write hwrite hne (hadds.find hfind)

/-- Where the temporary file does not go, there is at most a new directory of the target. -/
theorem Leaves.entryAt (h : tree.Leaves current path after)
    (hapart : after.PointsTo current path.temporary place → path.temporary = path) :
    after.entry? place = tree.entry? place ∨ tree.entry? place = none ∧ after.entry? place = some .directory ∧
      ∃ outer ∈ path.directories, after.PointsTo current outer place := by
  cases h with
  | directories hadds => exact (hadds place).imp_right fun h => ⟨h.2.1, h.2.2, h.1⟩
  | beside hne hadds hwrite =>
      obtain ⟨hkeeps, leftover, hleftover, _, hentries⟩ := write_changes hwrite
      have hplace : place ≠ leftover := by
        rintro rfl
        exact hne (hapart (hleftover.keep hkeeps).pointsTo)
      rw [hentries, if_neg hplace]
      exact (hadds.keep hkeeps (List.Subset.refl _) place).imp_right fun h => ⟨h.2.1, h.2.2, h.1⟩

theorem leaves_of_error {disk left : Disk} (h : (Disk.system current).Course disk path content (.error failure) left)
    (hne : path.temporary ≠ path) : disk.tree.Leaves current path left.tree := by
  cases h with
  | directories _ hensured => exact .directories (Disk.addsOn_ensureDirectories hensured)
  | temporary hensured hwrite =>
      have hadds := Disk.addsOn_ensureDirectories hensured
      rcases Disk.write_of_error hwrite with hsame | ⟨text, htext⟩
      · rw [hsame]
        exact .directories hadds
      · exact .beside hne hadds htext
  | target hensured hwrite hrename =>
      rw [Disk.rename_of_error hrename]
      exact .beside hne (Disk.addsOn_ensureDirectories hensured) (Disk.write_of_ok hwrite)

/-- A file is replaced whole or not at all, whichever steps fail, and also where the content breaks off while it is
written. If the replacement succeeds, the path of the target leads to the content and that of the temporary file, if it
is another one, to nothing. If it fails, the report names the path of the step that failed, and what the target led to
before it leads to still. What stands at the place of the target is the same then, if the temporary file goes
elsewhere, unless nothing stood there and the place is that of a directory of the target. A target that is its own
temporary file is kept in this way on a disk on which nothing goes wrong but what its tree does not allow. -/
theorem target_replaced_or_kept (disk : Disk) (current : List String) (path : FilePath) (content : String) :
    ∃ outcome after, (Disk.system current).replace path content disk = (outcome, after) ∧
      (Disk.system current).Course disk path content outcome after ∧
      (disk.IsSteady → (system current).replace path content disk.tree = (outcome, after.tree)) ∧
      (outcome = .ok () → after.tree.find current path = .ok (.file content) ∧
        (path.temporary ≠ path → after.tree.find current path.temporary = .error .notFound)) ∧
      (outcome ≠ .ok () → (path.temporary = path → disk.IsSteady) →
        (∀ entry, disk.tree.find current path = .ok entry → after.tree.find current path = .ok entry) ∧
        ∀ place, after.tree.PointsTo current path place →
          (after.tree.PointsTo current path.temporary place → path.temporary = path) →
          after.tree.entry? place = disk.tree.entry? place ∨
            disk.tree.entry? place = none ∧ after.tree.entry? place = some .directory ∧
              ∃ outer ∈ path.directories, after.tree.PointsTo current outer place) := by
  have hcourse := (Disk.system current).course_replace disk path content
  have hsteady : disk.IsSteady → (system current).replace path content disk.tree = _ := fun h =>
    Disk.replace_of_isSteady h current path content
  generalize (Disk.system current).replace path content disk = result at hcourse hsteady ⊢
  obtain ⟨outcome, after⟩ := result
  refine ⟨outcome, after, rfl, hcourse, hsteady, ?_, ?_⟩
  · rintro rfl
    cases hcourse with
    | done _ hwrite hrename => exact find_of_moved (Disk.write_of_ok hwrite) (Disk.rename_of_ok hrename)
  · intro hfailed hsame
    cases outcome with
    | ok done => exact absurd rfl hfailed
    | error failure =>
        have hleaves : disk.tree.Leaves current path after.tree := by
          by_cases hne : path.temporary = path
          · have htwin := (system current).course_replace disk.tree path content
            rw [hsteady (hsame hne)] at htwin
            exact .directories (addsOn_of_error htwin hne)
          · exact leaves_of_error hcourse hne
        exact ⟨fun _ => hleaves.find, fun _ _ => hleaves.entryAt⟩

/-- A disk on which the content breaks off, and the text of the target that was there before. -/
example : ∃ after, (Disk.system []).replace ⟨"/index.ts"⟩ "new"
      ⟨⟨[(["index.ts"], .file "old")]⟩, [some (.brokenOff (.other "no space") "ne")]⟩ =
        (.error (.unwritable "/index.tmp" (.other "no space")), after) ∧
      after.tree.entry? ["index.tmp"] = some (.file "ne") ∧ after.tree.entry? ["index.ts"] = some (.file "old") :=
  ⟨⟨⟨[(["index.tmp"], .file "ne"), (["index.ts"], .file "old")]⟩, []⟩, rfl, rfl, rfl⟩

/-- A path that leads through the directory it is the path of: that one is made on the way, and no file can come to its
place. Where slashes stand behind the name, the content goes to the file in front of them. -/
theorem missing_target_becomes_directory :
    (∃ after, (system []).replace ⟨"/new/../new"⟩ "x" ⟨[]⟩ =
        (.error (.unwritable "/new/../new" .isDirectory), after) ∧
      find ⟨[]⟩ [] ⟨"/new/../new"⟩ = .error .notFound ∧ after.find [] ⟨"/new/../new"⟩ = .ok .directory ∧
      entry? ⟨[]⟩ ["new"] = none ∧ after.entry? ["new"] = some .directory) ∧
    ∃ after, (system []).replace ⟨"/x.tmp/"⟩ "new" ⟨[(["x.tmp"], .file "old")]⟩ =
        (.error (.unwritable "/x.tmp/" .notDirectory), after) ∧ after.entry? ["x.tmp"] = some (.file "new") := by
  refine ⟨⟨_, rfl, rfl, rfl, rfl, rfl⟩, _, rfl, rfl⟩

end ApiProxy.FileTree
