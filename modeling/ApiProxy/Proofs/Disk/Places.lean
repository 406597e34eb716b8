import ApiProxy.FileTree
import ApiProxy.OrderedMap
import ApiProxy.Proofs.FilePath
import ApiProxy.Proofs.Outcome

/-! The places that paths lead to in a tree. Trees are told apart by what they have at each place. A path that is
walked leads to the same place in every tree that has the directories on it, so a place that was found once is found
again as long as no directory is lost. -/

namespace ApiProxy

theorem FilePath.isName_temporary : FilePath.IsName "index.tmp" := ⟨by decide, by simp, by decide, by decide⟩

namespace FileTree

variable {tree after : FileTree} {place other front back : List String} {current : List String} {path base : FilePath}
  {part : String} {entry : Entry}

/-! ### Entries -/

@[simp]
theorem entryAt_nil (tree : FileTree) : tree.entry? [] = some .directory := if_pos rfl

theorem entryAt_of_ne_nil (tree : FileTree) (h : place ≠ []) : tree.entry? place = tree.entries.lookup place :=
  if_neg h

theorem lookup_filter_ne (entries : List (List String × Entry)) (place other : List String) :
    (entries.filter fun entry => entry.1 ≠ place).lookup other =
      if other = place then none else entries.lookup other := by
  induction entries with
  | nil => simp
  | cons entry entries ih =>
      obtain ⟨here, entry⟩ := entry
      by_cases hhere : here = place
      · subst hhere
        rw [List.filter_cons_of_neg (by simp), ih, OrderedMap.lookup_cons]
        split_ifs <;> rfl
      · rw [List.filter_cons_of_pos (by simpa using hhere), OrderedMap.lookup_cons, OrderedMap.lookup_cons, ih]
        split_ifs with hother hsame
        · exact absurd (hsame.symm.trans hother).symm hhere
        · rfl
        · rfl
        · rfl

theorem entryAt_remove (tree : FileTree) (hplace : place ≠ []) (other : List String) :
    entry? (tree.remove place) other = if other = place then none else tree.entry? other := by
  by_cases hother : other = []
  · rw [hother, entryAt_nil, entryAt_nil, if_neg hplace.symm]
  · rw [entryAt_of_ne_nil _ hother, entryAt_of_ne_nil _ hother, remove]
    exact lookup_filter_ne tree.entries place other

theorem entryAt_put (tree : FileTree) (hplace : place ≠ []) (entry : Entry) (other : List String) :
    entry? (tree.put place entry) other = if other = place then some entry else tree.entry? other := by
  have hremoved := entryAt_remove tree hplace other
  by_cases hother : other = []
  · rw [hother, entryAt_nil, entryAt_nil, if_neg hplace.symm]
  · rw [entryAt_of_ne_nil _ hother] at hremoved ⊢
    rw [put, OrderedMap.lookup_cons, hremoved]
    split_ifs <;> rfl

theorem concat_ne_nil (place : List String) (name : String) : place ++ [name] ≠ [] :=
  List.append_ne_nil_of_right_ne_nil place (List.cons_ne_nil name [])

/-- Of the names in a directory, only the one that is put gets another entry. -/
theorem entryAt_put_concat (tree : FileTree) (place : List String) (name : String) (entry : Entry) (other : String) :
    entry? (tree.put (place ++ [name]) entry) (place ++ [other]) =
      if other = name then some entry else tree.entry? (place ++ [other]) := by
  rw [entryAt_put tree (concat_ne_nil place name)]
  simp only [List.append_cancel_left_eq, List.cons.injEq, and_true]

/-- Two trees that have the same at every place, in whatever order they list it. -/
def Same (tree other : FileTree) : Prop := ∀ place, tree.entry? place = other.entry? place

theorem Same.symm (h : tree.Same after) : after.Same tree := fun place => (h place).symm

theorem Same.trans {third : FileTree} (h : tree.Same after) (hnext : after.Same third) : tree.Same third :=
  fun place => (h place).trans (hnext place)

/-- No directory is lost. -/
def KeepsDirectories (tree after : FileTree) : Prop :=
  ∀ place, tree.entry? place = some .directory → after.entry? place = some .directory

theorem Same.keepsDirectories (h : tree.Same after) : tree.KeepsDirectories after := by
  intro place hplace
  rw [← h place, hplace]

theorem keepsDirectories_put (hplace : place ≠ []) (entry : Entry) (h : tree.entry? place ≠ some .directory) :
    tree.KeepsDirectories (tree.put place entry) := by
  intro other hother
  have hne : other ≠ place := by
    rintro rfl
    exact h hother
  rw [entryAt_put tree hplace, if_neg hne, hother]

/-! ### Walking -/

theorem enter_eq_ok_iff : tree.enter place = .ok () ↔ tree.entry? place = some .directory := by
  rw [enter]
  cases tree.entry? place with
  | none => simp
  | some entry => cases entry <;> simp

theorem walk_append (tree : FileTree) (place front back : List String) :
    tree.walk place (front ++ back) = tree.walk place front >>= fun next => tree.walk next back := by
  induction front generalizing place with
  | nil => rfl
  | cons name front ih =>
      rw [List.cons_append, walk, walk]
      cases tree.enter place with
      | error cause => rfl
      | ok done =>
          rw [Outcome.ok_bind, Outcome.ok_bind]
          split_ifs
          · exact ih place
          · exact ih place.dropLast
          · cases checkName name with
            | error cause => rfl
            | ok done => exact ih (place ++ [name])

theorem walk_of_keepsDirectories (h : tree.KeepsDirectories after) {names : List String} {found : List String}
    (hwalk : tree.walk place names = .ok found) : after.walk place names = .ok found := by
  induction names generalizing place with
  | nil => exact hwalk
  | cons name names ih =>
      rw [walk] at hwalk ⊢
      obtain ⟨done, henter, hrest⟩ := Outcome.bind_eq_ok_iff.mp hwalk
      rw [enter_eq_ok_iff.mpr (h place (enter_eq_ok_iff.mp henter)), Outcome.ok_bind]
      split_ifs at hrest ⊢
      · exact ih hrest
      · exact ih hrest
      · obtain ⟨fits, hname, hrest⟩ := Outcome.bind_eq_ok_iff.mp hrest
        rw [hname]
        exact ih hrest

theorem walk_name (hpart : FilePath.IsName part) (tree : FileTree) (place : List String) :
    tree.walk place [part] = (do
      tree.enter place
      checkName part
      .ok (place ++ [part])) := by
  rw [walk, if_neg, if_neg]
  · rfl
  · exact hpart.ne_dots
  · simp [hpart.ne_empty, hpart.ne_dot]

/-- The path leads to a directory. -/
structure Opens (tree : FileTree) (current : List String) (path : FilePath) (place : List String) : Prop where
  leads : tree.walk (start current path) (names path) = .ok place
  isDirectory : tree.entry? place = some .directory

theorem Opens.keep (h : tree.Opens current path place) (hkeeps : tree.KeepsDirectories after) :
    after.Opens current path place :=
  ⟨walk_of_keepsDirectories hkeeps h.leads, hkeeps place h.isDirectory⟩

theorem Opens.unique (h : tree.Opens current path place) (hother : tree.Opens current path other) :
    place = other :=
  Except.ok.inj (h.leads.symm.trans hother.leads)

/-! ### Paths that end in a name -/

theorem checkPath_eq_ok_iff : checkPath path = .ok () ↔
    '\x00' ∉ path.text.toList ∧ path.text ≠ "" ∧ path.text.utf8ByteSize ≤ longestPath := by
  unfold checkPath
  split_ifs with hnul hempty hlong <;> simp_all

theorem names_of_endsIn (h : path.EndsIn part) : ∃ early, names path = early ++ [part] := by
  obtain ⟨early, hearly⟩ := h
  refine ⟨early.map String.ofList, ?_⟩
  rw [names, hearly, List.map_append, List.map_singleton, String.ofList_toList]

section Name

variable (hpart : FilePath.IsName part) {early : List String} (hnames : names path = early ++ [part])

include hpart hnames

/-- The place of a name in a directory, if a path can spell it. -/
theorem target_eq : tree.target current path = (do
    checkPath path
    let place ← tree.walk (start current path) early
    tree.enter place
    checkName part
    .ok ⟨place, some part, false⟩) := by
  have hreversed : (names path).reverse = part :: early.reverse := by rw [hnames, List.reverse_concat]
  have hdrop : (part :: early.reverse).dropWhile (· = "") = part :: early.reverse := by simp [hpart.ne_empty]
  have hdots : ¬((part = "." || part = "..") = true) := by simp [hpart.ne_dot, hpart.ne_dots]
  have hslash : decide ((part :: early.reverse).head? = some "") = false := by simp [hpart.ne_empty]
  unfold target
  dsimp only
  rw [hreversed, hdrop, hslash]
  simp only [List.reverse_reverse, if_neg hdots]

theorem walk_names : tree.walk (start current path) (names path) = (do
    let place ← tree.walk (start current path) early
    tree.enter place
    checkName part
    .ok (place ++ [part])) := by
  rw [hnames, walk_append]
  simp only [walk_name hpart]

/-- What stands in front of the name of an open directory. -/
theorem Opens.outer (h : tree.Opens current path place) : ∃ outer,
    tree.walk (start current path) early = .ok outer ∧ tree.enter outer = .ok () ∧ checkName part = .ok () ∧
      place = outer ++ [part] := by
  have hleads := h.leads
  rw [walk_names hpart hnames] at hleads
  obtain ⟨outer, houter, hrest⟩ := Outcome.bind_eq_ok_iff.mp hleads
  obtain ⟨_, henter, hrest⟩ := Outcome.bind_eq_ok_iff.mp hrest
  obtain ⟨_, hname, hplace⟩ := Outcome.bind_eq_ok_iff.mp hrest
  exact ⟨outer, houter, henter, hname, (Except.ok.inj hplace).symm⟩

/-- An open directory is found at its place, by a path of a size that can be asked for. -/
theorem Opens.target (h : tree.Opens current path place) (hpath : checkPath path = .ok ()) :
    ∃ target, tree.target current path = .ok target ∧ target.name? ≠ none ∧ target.place = place := by
  obtain ⟨outer, houter, henter, hname, rfl⟩ := h.outer hpart hnames
  refine ⟨⟨outer, some part, false⟩, ?_, Option.some_ne_none part, rfl⟩
  rw [target_eq hpart hnames, hpath, houter]
  simp only [Outcome.ok_bind, henter, hname]

end Name

theorem Opens.find (h : tree.Opens current path place) (hpath : checkPath path = .ok ()) :
    tree.find current path = .ok .directory := by
  rw [FileTree.find, hpath, h.leads]
  simp only [Outcome.ok_bind, h.isDirectory]

/-! ### Names in a directory -/

section Join

variable (hbase : base.IsNamed) (hpart : FilePath.IsName part)

include hbase hpart

theorem names_join : names (base.join part) = names base ++ [part] := by
  obtain ⟨name, hname, hends⟩ := hbase
  rw [names, hends.join_eq hname hpart.isAbsoluteText, FilePath.toList_append_slash, FilePath.stretches_append_slash,
    hpart.stretches, List.map_append, List.map_singleton, String.ofList_toList]
  rfl

theorem start_join (current : List String) : start current (base.join part) = start current base := by
  obtain ⟨name, hname, hends⟩ := hbase
  rw [start, start, hends.isAbsolute_join hname hpart]

theorem checkPath_of_join (h : checkPath (base.join part) = .ok ()) : checkPath base = .ok () := by
  obtain ⟨name, hname, hends⟩ := hbase
  have htext := hends.join_eq hname hpart.isAbsoluteText
  rw [checkPath_eq_ok_iff, htext] at h
  obtain ⟨hnul, _, hsize⟩ := h
  apply checkPath_eq_ok_iff.mpr
  refine ⟨?_, hends.text_ne_empty hname, ?_⟩
  · intro hmem
    apply hnul
    rw [FilePath.toList_append_slash]
    exact List.mem_append_left _ hmem
  · simp only [String.utf8ByteSize_append] at hsize
    omega

theorem opens_join_iff : tree.Opens current (base.join part) place ↔ ∃ outer, tree.Opens current base outer ∧
    checkName part = .ok () ∧ place = outer ++ [part] ∧ tree.entry? place = some .directory := by
  have hnames := names_join hbase hpart
  have hstart := start_join hbase hpart current
  constructor
  · intro h
    obtain ⟨outer, houter, henter, hcheck, hplace⟩ := h.outer hpart hnames
    rw [hstart] at houter
    exact ⟨outer, ⟨houter, enter_eq_ok_iff.mp henter⟩, hcheck, hplace, h.isDirectory⟩
  · rintro ⟨outer, houter, hcheck, rfl, hplace⟩
    refine ⟨?_, hplace⟩
    rw [walk_names hpart hnames, hstart, houter.leads]
    simp only [Outcome.ok_bind, enter_eq_ok_iff.mpr houter.isDirectory, hcheck]

theorem target_join_eq_ok_iff {target : Target} : tree.target current (base.join part) = .ok target ↔
    checkPath (base.join part) = .ok () ∧ checkName part = .ok () ∧
      ∃ outer, tree.Opens current base outer ∧ target = ⟨outer, some part, false⟩ := by
  rw [target_eq hpart (names_join hbase hpart), start_join hbase hpart]
  constructor
  · intro h
    obtain ⟨_, hpath, hrest⟩ := Outcome.bind_eq_ok_iff.mp h
    obtain ⟨outer, houter, hrest⟩ := Outcome.bind_eq_ok_iff.mp hrest
    obtain ⟨_, henter, hrest⟩ := Outcome.bind_eq_ok_iff.mp hrest
    obtain ⟨_, hcheck, htarget⟩ := Outcome.bind_eq_ok_iff.mp hrest
    exact ⟨hpath, hcheck, outer, ⟨houter, enter_eq_ok_iff.mp henter⟩, (Except.ok.inj htarget).symm⟩
  · rintro ⟨hpath, hcheck, outer, houter, rfl⟩
    simp only [hpath, houter.leads, enter_eq_ok_iff.mpr houter.isDirectory, hcheck, Outcome.ok_bind]

/-- What is found under a name in an open directory. -/
theorem Opens.find_join (h : tree.Opens current base place) (hpath : checkPath (base.join part) = .ok ())
    (hcheck : checkName part = .ok ()) :
    tree.find current (base.join part) = (tree.entry? (place ++ [part])).elim (.error .notFound) .ok := by
  rw [FileTree.find, walk_names hpart (names_join hbase hpart), start_join hbase hpart, hpath, h.leads]
  simp only [Outcome.ok_bind, enter_eq_ok_iff.mpr h.isDirectory, hcheck]
  cases tree.entry? (place ++ [part]) <;> rfl

end Join

end FileTree

end ApiProxy
