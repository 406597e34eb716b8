import Mathlib.Data.List.Induction
import ApiProxy.Proofs.Disk.Places
import ApiProxy.Proofs.Run.Recording

/-! Creating directories in a tree. Directories come only to places where nothing was, so whatever a tree holds stays.
Where a directory is open already, all that is created for a path below it is on the way from there. -/

namespace ApiProxy

/-- The path of a directory below another one. -/
def FilePath.descend (base : FilePath) (tail : List String) : FilePath := tail.foldl FilePath.join base

theorem FilePath.descend_concat (base : FilePath) (tail : List String) (part : String) :
    base.descend (tail ++ [part]) = (base.descend tail).join part := by
  rw [descend, List.foldl_concat]
  rfl

theorem FilePath.isNamed_descend {base : FilePath} (hbase : base.IsNamed) {tail : List String}
    (htail : ∀ part ∈ tail, FilePath.IsName part) : (base.descend tail).IsNamed := by
  induction tail using List.reverseRecOn with
  | nil => exact hbase
  | append_singleton tail part =>
      rw [descend_concat]
      exact isNamed_join _ (htail part (List.mem_append_right tail List.mem_cons_self))

namespace FileSystem

variable {σ : Type} {disk : FileSystem (StateM σ)} {state : σ} {p : σ → Prop} {path : FilePath}

theorem ensureDirectories_cons (disk : FileSystem (StateM σ)) (path : FilePath) (outer : List FilePath) (state : σ) :
    disk.ensureDirectories (path :: outer) state =
      match disk.ensureDirectory path state with
      | (.error .notFound, next) =>
        match disk.ensureDirectories outer next with
        | (.ok (), last) => disk.ensureDirectory path last
        | failed => failed
      | answered => answered := by
  rw [ensureDirectories, stateM_bind_apply]
  rcases disk.ensureDirectory path state with ⟨cause | _, next⟩
  · cases cause with
    | notFound =>
        show (disk.ensureDirectories outer >>= _) next = _
        rw [stateM_bind_apply]
        dsimp only
        rcases disk.ensureDirectories outer next with ⟨_ | _, last⟩ <;> rfl
    | _ => rfl
  · rfl

/-- What one step and the steps on the way preserve, all of them preserve. -/
theorem ensureDirectories_cons_preserves {outer : List FilePath}
    (hpath : ∀ state, p state → p (disk.ensureDirectory path state).2)
    (houter : ∀ state, p state → p (disk.ensureDirectories outer state).2) (h : p state) :
    p (disk.ensureDirectories (path :: outer) state).2 := by
  have hfirst := hpath state h
  rw [ensureDirectories_cons]
  generalize disk.ensureDirectory path state = first at hfirst ⊢
  obtain ⟨cause | _, next⟩ := first
  · cases cause with
    | notFound =>
        have hsecond := houter next hfirst
        dsimp only
        generalize disk.ensureDirectories outer next = second at hsecond ⊢
        obtain ⟨_ | _, last⟩ := second
        · exact hsecond
        · exact hpath last hsecond
    | _ => exact hfirst
  · exact hfirst

theorem ensureDirectory_preserves (hcreate : ∀ state, p state → p (disk.createDirectory path state).2)
    (hlook : ∀ state, p state → p (disk.isDirectory path state).2) (h : p state) :
    p (disk.ensureDirectory path state).2 := by
  have hcreated := hcreate state h
  rw [ensureDirectory, stateM_bind_apply]
  generalize disk.createDirectory path state = created at hcreated ⊢
  obtain ⟨cause | _, next⟩ := created
  · cases cause with
    | alreadyExists =>
        have hlooked := hlook next hcreated
        show p ((disk.isDirectory path >>= _) next).2
        rw [stateM_bind_apply]
        generalize disk.isDirectory path next = looked at hlooked ⊢
        obtain ⟨_ | _, last⟩ := looked <;> exact hlooked
    | _ => exact hcreated
  · exact hcreated

theorem ensureDirectories_preserves {paths : List FilePath}
    (hcreate : ∀ path ∈ paths, ∀ state, p state → p (disk.createDirectory path state).2)
    (hlook : ∀ path state, p state → p (disk.isDirectory path state).2) (h : p state) :
    p (disk.ensureDirectories paths state).2 := by
  induction paths generalizing state with
  | nil => exact h
  | cons path paths ih =>
      obtain ⟨hfirst, hrest⟩ := List.forall_mem_cons.mp hcreate
      exact ensureDirectories_cons_preserves (fun _ => ensureDirectory_preserves hfirst (hlook path))
        (fun _ => ih hrest) h

end FileSystem

namespace FileTree

open FileSystem (ensureDirectories_cons ensureDirectories_cons_preserves)

variable {tree after third : FileTree} {place : List String} {current : List String} {path base : FilePath}
  {part : String} {new : List String → Prop}

/-- Nothing is changed but that directories come to new places, where nothing was. -/
def Adds (tree after : FileTree) (new : List String → Prop) : Prop :=
  ∀ place, after.entry? place = tree.entry? place ∨
    new place ∧ tree.entry? place = none ∧ after.entry? place = some .directory

theorem Adds.refl (tree : FileTree) (new : List String → Prop) : tree.Adds tree new := fun _ => Or.inl rfl

theorem Adds.trans (h : tree.Adds after new) (hnext : after.Adds third new) : tree.Adds third new := by
  intro place
  rcases hnext place with hsame | ⟨hnew, hnone, hdirectory⟩
  · rw [hsame]
    exact h place
  · rcases h place with hsame | ⟨_, _, hearlier⟩
    · exact Or.inr ⟨hnew, hsame ▸ hnone, hdirectory⟩
    · rw [hearlier] at hnone
      cases hnone

theorem Adds.mono {wider : List String → Prop} (h : tree.Adds after new) (hwider : ∀ place, new place → wider place) :
    tree.Adds after wider := fun place =>
  (h place).imp_right fun hadded => ⟨hwider place hadded.1, hadded.2⟩

theorem Adds.of_some (h : tree.Adds after new) {entry : Entry} (hentry : tree.entry? place = some entry) :
    after.entry? place = some entry := by
  rcases h place with hsame | ⟨_, hnone, _⟩
  · rw [hsame, hentry]
  · rw [hnone] at hentry
    cases hentry

theorem Adds.of_not (h : tree.Adds after new) (hplace : ¬new place) : after.entry? place = tree.entry? place := by
  rcases h place with hsame | ⟨hnew, _, _⟩
  · exact hsame
  · exact absurd hnew hplace

theorem Adds.keepsDirectories (h : tree.Adds after new) : tree.KeepsDirectories after := fun _ hplace =>
  h.of_some hplace

theorem adds_put (hplace : place ≠ []) (hnone : tree.entry? place = none) (hnew : new place) :
    tree.Adds (tree.put place .directory) new := by
  intro other
  rw [entryAt_put tree hplace]
  by_cases hother : other = place
  · subst hother
    exact Or.inr ⟨hnew, hnone, if_pos rfl⟩
  · exact Or.inl (if_neg hother)

/-! ### One directory -/

theorem Target.place_ne_nil {target : Target} (h : target.name? ≠ none) : target.place ≠ [] := by
  obtain ⟨name, hname⟩ := Option.ne_none_iff_exists'.mp h
  rw [Target.place, hname]
  simp

theorem createDirectory_eq_ok_iff : tree.createDirectory current path = .ok after ↔
    ∃ target, tree.target current path = .ok target ∧ target.name? ≠ none ∧ tree.entry? target.place = none ∧
      after = tree.put target.place .directory := by
  unfold createDirectory
  cases tree.target current path with
  | error cause => simp [bind, Except.bind]
  | ok target =>
      rw [Outcome.ok_bind]
      split_ifs with htaken
      · refine iff_of_false (by simp) ?_
        rintro ⟨_, hsame, hname, hnone, _⟩
        cases hsame
        simp [hname, hnone] at htaken
      · simp only [Bool.or_eq_true, decide_eq_true_eq, not_or, Option.not_isSome_iff_eq_none] at htaken
        constructor
        · intro h
          exact ⟨target, rfl, htaken.1, htaken.2, (Except.ok.inj h).symm⟩
        · rintro ⟨_, hsame, _, _, rfl⟩
          cases hsame
          rfl

/-- A directory that is open is reported as such, and not as missing. -/
theorem Opens.createDirectory (h : tree.Opens current path place) (hnamed : path.IsNamed) :
    (checkPath path = .ok () → tree.createDirectory current path = .error .alreadyExists) ∧
      ∃ cause, tree.createDirectory current path = .error cause ∧ cause ≠ .notFound := by
  obtain ⟨part, hpart, hends⟩ := hnamed
  obtain ⟨early, hnames⟩ := names_of_endsIn hends
  have hexists (hpath : checkPath path = .ok ()) :
      tree.createDirectory current path = .error .alreadyExists := by
    obtain ⟨target, htarget, _, rfl⟩ := h.target hpart hnames hpath
    unfold FileTree.createDirectory
    rw [htarget, Outcome.ok_bind, h.isDirectory, if_pos]
    simp
  refine ⟨hexists, ?_⟩
  cases hpath : checkPath path with
  | ok done => exact ⟨.alreadyExists, hexists hpath, by simp⟩
  | error cause =>
      refine ⟨cause, ?_, ?_⟩
      · unfold FileTree.createDirectory
        rw [target_eq hpart hnames, hpath]
        rfl
      · rintro rfl
        have hempty : path.text.isEmpty = false := by simpa using hends.text_ne_empty hpart
        unfold checkPath at hpath
        rw [hempty] at hpath
        split_ifs at hpath <;> simp_all

theorem createDirectory_of_ok (h : tree.createDirectory current path = .ok after) :
    (system current).createDirectory path tree = (.ok (), after) := by
  unfold system
  dsimp only
  rw [change, h]

theorem ensureDirectory_of_ok (h : tree.createDirectory current path = .ok after) :
    (system current).ensureDirectory path tree = (.ok (), after) := by
  rw [FileSystem.ensureDirectory, stateM_bind_apply, createDirectory_of_ok h]
  rfl

theorem createDirectory_of_error {cause : SystemError} (h : tree.createDirectory current path = .error cause) :
    (system current).createDirectory path tree = (.error cause, tree) := by
  unfold system
  dsimp only
  rw [change, h]

theorem ensureDirectory_of_error {cause : SystemError} (h : tree.createDirectory current path = .error cause)
    (hcause : cause ≠ .alreadyExists) : (system current).ensureDirectory path tree = (.error cause, tree) := by
  rw [FileSystem.ensureDirectory, stateM_bind_apply, createDirectory_of_error h]
  cases cause with
  | alreadyExists => exact absurd rfl hcause
  | _ => rfl

theorem isDirectory_eq (tree : FileTree) (current : List String) (path : FilePath) :
    ∃ answer, (system current).isDirectory path tree = (answer, tree) ∧
      (tree.find current path = .ok .directory → answer = true) := by
  have hget : (get : StateM FileTree FileTree) tree = (tree, tree) := rfl
  unfold system
  dsimp only
  rw [stateM_bind_apply, hget]
  dsimp only
  rcases tree.find current path with cause | _ | _
  · exact ⟨false, rfl, by simp⟩
  · exact ⟨false, rfl, by simp⟩
  · exact ⟨true, rfl, fun _ => rfl⟩

theorem isDirectory_snd (tree : FileTree) (current : List String) (path : FilePath) :
    ((system current).isDirectory path tree).2 = tree := by
  obtain ⟨answer, hanswer, _⟩ := isDirectory_eq tree current path
  rw [hanswer]

/-- What exists already is left as it is, and is no obstacle if it is a directory. -/
theorem ensureDirectory_of_exists (h : tree.createDirectory current path = .error .alreadyExists) :
    ∃ answer, (system current).ensureDirectory path tree = (answer, tree) ∧ answer ≠ .error .notFound ∧
      (tree.find current path = .ok .directory → answer = .ok ()) := by
  obtain ⟨answer, hanswer, hfound⟩ := isDirectory_eq tree current path
  have hensured : (system current).ensureDirectory path tree =
      (if answer = true then .ok () else .error .alreadyExists, tree) := by
    rw [FileSystem.ensureDirectory, stateM_bind_apply, createDirectory_of_error h]
    show ((system current).isDirectory path >>= _) tree = _
    rw [stateM_bind_apply, hanswer]
    cases answer <;> rfl
  refine ⟨_, hensured, ?_, ?_⟩
  · split_ifs <;> simp
  · intro hdirectory
    rw [if_pos (hfound hdirectory)]

/-- A directory is created where nothing was, or the tree stays as it is. -/
theorem ensureDirectory_cases (tree : FileTree) (current : List String) (path : FilePath) :
    ((system current).ensureDirectory path tree).2 = tree ∨
      ∃ target, tree.target current path = .ok target ∧ target.name? ≠ none ∧ tree.entry? target.place = none ∧
        (system current).ensureDirectory path tree = (.ok (), tree.put target.place .directory) := by
  cases hcreate : tree.createDirectory current path with
  | ok after =>
      obtain ⟨target, htarget, hname, hnone, rfl⟩ := createDirectory_eq_ok_iff.mp hcreate
      exact Or.inr ⟨target, htarget, hname, hnone, ensureDirectory_of_ok hcreate⟩
  | error cause =>
      apply Or.inl
      by_cases hcause : cause = .alreadyExists
      · subst hcause
        obtain ⟨answer, hanswer, _⟩ := ensureDirectory_of_exists hcreate
        rw [hanswer]
      · rw [ensureDirectory_of_error hcreate hcause]

/-- An open directory is ensured without a change, and never reported as missing. -/
theorem Opens.ensureDirectory (h : tree.Opens current path place) (hnamed : path.IsNamed) :
    ∃ answer, (system current).ensureDirectory path tree = (answer, tree) ∧ answer ≠ .error .notFound ∧
      (checkPath path = .ok () → answer = .ok ()) := by
  obtain ⟨hexists, cause, hcreate, hcause⟩ := h.createDirectory hnamed
  by_cases htaken : cause = .alreadyExists
  · subst htaken
    obtain ⟨answer, hanswer, hmissing, hfound⟩ := ensureDirectory_of_exists hcreate
    exact ⟨answer, hanswer, hmissing, fun hpath => hfound (h.find hpath)⟩
  · refine ⟨.error cause, ensureDirectory_of_error hcreate htaken, by simpa using hcause, ?_⟩
    intro hpath
    rw [hexists hpath] at hcreate
    exact absurd (Except.error.inj hcreate).symm htaken

/-! ### A directory and those on the way to it -/

theorem Opens.ensureDirectories (h : tree.Opens current path place) (hnamed : path.IsNamed) :
    ((system current).ensureDirectories path.ancestors tree).2 = tree ∧
      (checkPath path = .ok () → ((system current).ensureDirectories path.ancestors tree).1 = .ok ()) := by
  obtain ⟨answer, hanswer, hmissing, hfound⟩ := h.ensureDirectory hnamed
  obtain ⟨part, hpart, hends⟩ := hnamed
  obtain ⟨outer, houter⟩ := hends.ancestors_eq hpart
  have hensured : (system current).ensureDirectories path.ancestors tree = (answer, tree) := by
    rw [houter, ensureDirectories_cons, hanswer]
    rcases answer with cause | _
    · cases cause with
      | notFound => exact absurd rfl hmissing
      | _ => rfl
    · rfl
  rw [hensured]
  exact ⟨rfl, hfound⟩

section Descend

variable {outer tail : List String} (hbase : base.IsNamed) (htail : ∀ part ∈ tail, FilePath.IsName part)

include hbase htail

/-- A directory that is open below another one has its place below the place of that one. -/
theorem Opens.of_descend (h : tree.Opens current (base.descend tail) place) :
    ∃ outer, tree.Opens current base outer ∧ place = outer ++ tail := by
  induction tail using List.reverseRecOn generalizing place with
  | nil => exact ⟨place, h, (List.append_nil place).symm⟩
  | append_singleton tail part ih =>
      rw [List.forall_mem_append] at htail
      have hnamed := FilePath.isNamed_descend hbase htail.1
      rw [FilePath.descend_concat, opens_join_iff hnamed (htail.2 part List.mem_cons_self)] at h
      obtain ⟨middle, hmiddle, _, rfl, _⟩ := h
      obtain ⟨outer, houter, rfl⟩ := ih htail.1 hmiddle
      exact ⟨outer, houter, List.append_assoc outer tail [part]⟩

/-- Below an open directory, only directories on the way from it are created. -/
theorem Opens.adds_ensureDirectories (h : tree.Opens current base outer) :
    tree.Adds ((system current).ensureDirectories (base.descend tail).ancestors tree).2
      fun place => ∃ front, front <+: tail ∧ place = outer ++ front := by
  induction tail using List.reverseRecOn generalizing tree with
  | nil =>
      rw [FilePath.descend, List.foldl_nil, (h.ensureDirectories hbase).1]
      exact .refl tree _
  | append_singleton tail part ih =>
      rw [List.forall_mem_append] at htail
      have hpart := htail.2 part List.mem_cons_self
      have hnamed := FilePath.isNamed_descend hbase htail.1
      -- the directory itself, in any tree in which the base is open
      have hone {tree : FileTree} (hopen : tree.Opens current base outer) :
          tree.Adds ((system current).ensureDirectory ((base.descend tail).join part) tree).2
            fun place => ∃ front, front <+: tail ++ [part] ∧ place = outer ++ front := by
        rcases ensureDirectory_cases tree current ((base.descend tail).join part) with hsame | hcreated
        · rw [hsame]
          exact .refl tree _
        · obtain ⟨target, htarget, hname, hnone, hensured⟩ := hcreated
          obtain ⟨_, _, middle, hmiddle, rfl⟩ := (target_join_eq_ok_iff hnamed hpart).mp htarget
          obtain ⟨other, hother, rfl⟩ := hmiddle.of_descend hbase htail.1
          obtain rfl := hopen.unique hother
          rw [hensured]
          apply adds_put (Target.place_ne_nil hname) hnone
          exact ⟨tail ++ [part], List.prefix_refl _, List.append_assoc outer tail [part]⟩
      obtain ⟨last, hlast, hends⟩ := hnamed
      rw [FilePath.descend_concat, hends.ancestors_join hlast hpart]
      apply ensureDirectories_cons_preserves (p := fun next => tree.Adds next _) ?_ ?_ (Adds.refl tree _)
      · intro next hnext
        exact hnext.trans (hone (h.keep hnext.keepsDirectories))
      · intro next hnext
        apply hnext.trans
        apply (ih htail.1 (h.keep hnext.keepsDirectories)).mono
        rintro place ⟨front, hfront, rfl⟩
        exact ⟨front, hfront.trans (List.prefix_append tail [part]), rfl⟩

end Descend

end FileTree

end ApiProxy
