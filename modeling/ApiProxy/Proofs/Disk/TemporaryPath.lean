import ApiProxy.Proofs.Disk.Course

/-! The path of the temporary file. It differs from the path of the target in the last name alone, and slashes and dots
behind that name are left out. So the two paths point to different places in one directory, or they are the same path,
or something stands behind the name of the target. -/

namespace ApiProxy

namespace FilePath

variable {path : FilePath} {name : List Char} {earlier pieces : List (List Char)} {isRooted : Bool}

/-- What stands in front of the stretches behind the root. -/
def rootStretches (isRooted : Bool) : List (List Char) := if isRooted then [[]] else []

theorem stretches_eq (path : FilePath) : stretches path.text.toList = rootStretches path.isAbsolute ++ path.body := by
  rw [body, rootStretches]
  split_ifs with habsolute
  · obtain ⟨rest, _, hstretches⟩ := exists_of_isAbsolute habsolute
    rw [hstretches]
    rfl
  · rfl

theorem slash_notMem_of_mem_stretches {text stretch : List Char} (h : stretch ∈ stretches text) : '/' ∉ stretch := by
  intro hslash
  cases isSeparator_of_mem_pieces h hslash

/-- The pieces at the end that are no components are empty or dots. -/
theorem exists_dropped (isRooted : Bool) (pieces : List (List Char)) : ∃ dropped,
    pieces = dropped ++ dropInsignificant isRooted pieces ∧ ∀ piece ∈ dropped, piece = [] ∨ piece = ['.'] := by
  induction pieces with
  | nil => exact ⟨[], rfl, nofun⟩
  | cons piece earlier ih =>
      rw [dropInsignificant]
      split_ifs with hinsignificant
      · obtain ⟨dropped, hdropped, hall⟩ := ih
        refine ⟨piece :: dropped, congrArg (piece :: ·) hdropped, List.forall_mem_cons.mpr ⟨?_, hall⟩⟩
        simp only [isInsignificant, Bool.or_eq_true, Bool.and_eq_true, decide_eq_true_eq] at hinsignificant
        exact hinsignificant.imp_right And.left
      · exact ⟨[], rfl, nofun⟩

theorem ne_nil_of_dropInsignificant (h : dropInsignificant isRooted pieces = name :: earlier) : name ≠ [] := by
  induction pieces with
  | nil => cases h
  | cons piece rest ih =>
      rw [dropInsignificant] at h
      split_ifs at h with hinsignificant
      · exact ih h
      · cases h
        rintro rfl
        exact hinsignificant rfl

theorem stretches_ofPieces (isRooted : Bool) (hne : pieces ≠ []) (hfree : ∀ piece ∈ pieces, '/' ∉ piece) :
    stretches (ofPieces isRooted pieces).text.toList = rootStretches isRooted ++ pieces.reverse := by
  have hjoined : stretches (joinPieces '/' pieces.reverse) = pieces.reverse :=
    pieces_joinPieces (List.reverse_ne_nil_iff.mpr hne) fun piece hpiece => hfree piece (List.mem_reverse.mp hpiece)
  rw [ofPieces, String.toList_ofList, rootStretches]
  cases isRooted with
  | false => exact hjoined
  | true => exact (stretches_append_slash [] _).trans (congrArg ([[]] ++ ·) hjoined)

/-- A path that is not absolute starts with a stretch that is not empty, if anything stands behind it. -/
theorem first_ne_nil_of_relative (hrelative : path.isAbsolute = false) {first next : List Char}
    {rest : List (List Char)} (h : stretches path.text.toList = first :: next :: rest) : first ≠ [] := by
  rintro rfl
  have htext := joinPieces_pieces '/' path.text.toList
  rw [show pieces (· = '/') path.text.toList = [] :: next :: rest from h, joinPieces, List.intercalate_cons_cons] at htext
  rw [isAbsolute, isAbsoluteText, ← htext] at hrelative
  cases hrelative

theorem isAbsolute_ofPieces (hne : pieces ≠ []) (hfree : ∀ piece ∈ pieces, '/' ∉ piece)
    (hfirst : isRooted = false → ∀ rest, pieces.reverse ≠ [] :: rest) :
    (ofPieces isRooted pieces).isAbsolute = isRooted := by
  cases isRooted with
  | true =>
      rw [isAbsolute, ofPieces, String.toList_ofList]
      rfl
  | false =>
      rw [← Bool.not_eq_true]
      intro habsolute
      obtain ⟨rest, _, hstretches⟩ := exists_of_isAbsolute habsolute
      rw [stretches_ofPieces false hne hfree] at hstretches
      exact hfirst rfl _ hstretches

/-- Another name behind the same pieces leaves a path absolute or relative. -/
theorem isAbsolute_with_last {last : List Char} {dropped : List (List Char)}
    (hbody : path.body = earlier.reverse ++ name :: dropped) (hlast : last ≠ [])
    (hfree : ∀ piece ∈ last :: earlier, '/' ∉ piece) :
    (ofPieces path.isAbsolute (last :: earlier)).isAbsolute = path.isAbsolute := by
  apply isAbsolute_ofPieces (List.cons_ne_nil last earlier) hfree
  intro hrelative rest hstart
  have hstretches : stretches path.text.toList = earlier.reverse ++ name :: dropped := by
    rw [stretches_eq, hrelative, hbody]
    rfl
  rw [List.reverse_cons] at hstart
  cases hearly : earlier.reverse with
  | nil =>
      rw [hearly] at hstart
      exact hlast (List.cons.inj hstart).1
  | cons first others =>
      rw [hearly] at hstart hstretches
      cases hstart
      obtain ⟨next, others, hnext⟩ := List.exists_cons_of_ne_nil
        (List.append_ne_nil_of_right_ne_nil others (List.cons_ne_nil name dropped))
      rw [List.cons_append, hnext] at hstretches
      exact first_ne_nil_of_relative hrelative hstretches rfl

theorem mem_of_mem_stem {c : Char} (h : c ∈ stem name) : c ∈ name := by
  rw [stem] at h
  split at h
  next dot before hbefore =>
    split_ifs at h
    · exact h
    · have hsuffix : dot :: before <:+ name.reverse := hbefore ▸ List.dropWhile_suffix _
      exact List.mem_reverse.mp (hsuffix.subset (List.mem_cons_of_mem dot (List.mem_reverse.mp h)))
  next => exact h

theorem isName_ofList {stretch : List Char} (hne : stretch ≠ []) (hfree : '/' ∉ stretch) (hdot : stretch ≠ ['.'])
    (hdots : stretch ≠ ['.', '.']) : IsName (String.ofList stretch) where
  ne_empty hempty := hne (String.ofList_injective hempty)
  no_slash := by rwa [String.toList_ofList]
  ne_dot heq := hdot (String.ofList_injective heq)
  ne_dots heq := hdots (String.ofList_injective heq)

theorem isName_temporary_ofList (hfree : '/' ∉ name) :
    IsName (String.ofList (stem name ++ '.' :: FileSystem.temporaryExtension.toList)) := by
  have hextension : FileSystem.temporaryExtension.toList = ['t', 'm', 'p'] := by decide
  rw [hextension]
  refine isName_ofList (by simp) ?_ ?_ ?_
  · simp only [List.mem_append, not_or]
    exact ⟨fun hmem => hfree (mem_of_mem_stem hmem), by decide⟩
  · intro heq
    simpa using congrArg List.length heq
  · intro heq
    simpa using congrArg List.length heq

/-- The last component of a path, what stands in front of it, and the pieces behind it that are no components. -/
theorem exists_last_component (h : path.significantPieces = name :: earlier) : ∃ dropped,
    path.body = earlier.reverse ++ name :: dropped ∧ (∀ piece ∈ dropped, piece = [] ∨ piece = ['.']) ∧
      name ≠ [] ∧ ∀ piece ∈ name :: earlier, '/' ∉ piece := by
  have hname : dropInsignificant path.isAbsolute path.body.reverse = name :: earlier := h
  obtain ⟨dropped, hdropped, hblank⟩ := exists_dropped path.isAbsolute path.body.reverse
  rw [hname] at hdropped
  have hbody : path.body = earlier.reverse ++ name :: dropped.reverse := by
    simpa using congrArg List.reverse hdropped
  refine ⟨dropped.reverse, hbody, fun piece hpiece => hblank piece (List.mem_reverse.mp hpiece),
    ne_nil_of_dropInsignificant hname, ?_⟩
  intro piece hpiece
  have hmem : piece ∈ path.body := by
    rw [← List.mem_reverse, hdropped]
    exact List.mem_append_right dropped hpiece
  have hstretch : piece ∈ stretches path.text.toList := by
    rw [stretches_eq]
    exact List.mem_append_right _ hmem
  exact slash_notMem_of_mem_stretches hstretch

/-- The paths of a target and of its temporary file, name by name: they differ in the last name, and behind that of the
target there may be slashes and dots. -/
structure Beside (path temporary : FilePath) (early : List String) (part other : String) (rest : List String) :
    Prop where
  isName_part : IsName part
  isName_other : IsName other
  names_path : FileTree.names path = early ++ part :: rest
  names_temporary : FileTree.names temporary = early ++ [other]
  blank : ∀ piece ∈ rest, piece = "" ∨ piece = "."
  isAbsolute : temporary.isAbsolute = path.isAbsolute
  same : other = part → rest = [] → temporary = path

theorem names_eq {front back : List (List Char)} (h : stretches path.text.toList = front ++ back) :
    FileTree.names path = front.map String.ofList ++ back.map String.ofList := by
  rw [FileTree.names, h, List.map_append]

theorem beside_temporary (path : FilePath) :
    path.temporary = path ∨ ∃ early part other rest, Beside path path.temporary early part other rest := by
  rw [temporary, withExtension]
  split
  next => exact Or.inl rfl
  next name earlier hsignificant =>
    split_ifs with hdots
    · exact Or.inl rfl
    simp only [Bool.or_eq_true, decide_eq_true_eq, not_or] at hdots
    obtain ⟨dropped, hbody, hblank, hne, hfree⟩ := exists_last_component hsignificant
    obtain ⟨hname, hearlier⟩ := List.forall_mem_cons.mp hfree
    have hother := isName_temporary_ofList hname
    generalize hlast : stem name ++ '.' :: FileSystem.temporaryExtension.toList = last at hother ⊢
    have hlastFree : ∀ piece ∈ last :: earlier, '/' ∉ piece := by
      refine List.forall_mem_cons.mpr ⟨?_, hearlier⟩
      simpa using hother.no_slash
    have hpath : stretches path.text.toList =
        (rootStretches path.isAbsolute ++ earlier.reverse) ++ name :: dropped := by
      rw [stretches_eq, hbody, List.append_assoc]
    have htemporary : stretches (ofPieces path.isAbsolute (last :: earlier)).text.toList =
        (rootStretches path.isAbsolute ++ earlier.reverse) ++ [last] := by
      rw [stretches_ofPieces _ (List.cons_ne_nil _ _) hlastFree, List.reverse_cons, List.append_assoc]
    refine Or.inr ⟨_, String.ofList name, String.ofList last, dropped.map String.ofList, ?_, hother, names_eq hpath,
      names_eq htemporary, ?_, ?_, ?_⟩
    · exact isName_ofList hne hname hdots.1 hdots.2
    · intro piece hpiece
      obtain ⟨stretch, hstretch, rfl⟩ := List.mem_map.mp hpiece
      exact (hblank stretch hstretch).imp (congrArg String.ofList) (congrArg String.ofList)
    · refine isAbsolute_with_last hbody ?_ hlastFree
      rintro rfl
      exact hother.ne_empty rfl
    · intro hsame hrest
      obtain rfl := String.ofList_injective hsame
      rw [List.map_eq_nil_iff] at hrest
      rw [hrest] at hbody
      have hpieces : path.body.reverse = last :: earlier := by rw [hbody, List.reverse_concat, List.reverse_reverse]
      rw [← hpieces, ofPieces_body]

end FilePath

end ApiProxy
