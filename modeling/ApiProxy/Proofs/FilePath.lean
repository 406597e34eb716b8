import Mathlib.Data.List.Basic
import ApiProxy.FilePath
import ApiProxy.Proofs.Text.Pieces

/-! File paths by their components. A name that is joined to a path is its last component and leaves the others as
they are, however the path is spelled, and the path in front of the name is its parent. -/

namespace ApiProxy.FilePath

/-- A text that stands for one component wherever it is in a path. -/
structure IsName (part : String) : Prop where
  ne_empty : part ≠ ""
  no_slash : '/' ∉ part.toList
  ne_dot : part ≠ "."
  ne_dots : part ≠ ".."

variable {part : String}

theorem IsName.toList_ne_nil (h : IsName part) : part.toList ≠ [] := by
  rw [Ne, String.toList_eq_nil_iff]
  exact h.ne_empty

theorem IsName.toList_ne_dot (h : IsName part) : part.toList ≠ ['.'] := fun hdot =>
  h.ne_dot (String.toList_injective hdot)

theorem IsName.toList_ne_dots (h : IsName part) : part.toList ≠ ['.', '.'] := fun hdots =>
  h.ne_dots (String.toList_injective hdots)

theorem IsName.pieceComponent? (h : IsName part) : pieceComponent? part.toList = some (.name part) := by
  rw [FilePath.pieceComponent?, if_neg h.toList_ne_nil, if_neg h.toList_ne_dot, if_neg h.toList_ne_dots,
    String.ofList_toList]

theorem IsName.stretches (h : IsName part) : stretches part.toList = [part.toList] := by
  refine pieces_of_free fun c hc => decide_eq_false ?_
  rintro rfl
  exact h.no_slash hc

theorem IsName.filterMap_stretches (h : IsName part) :
    (FilePath.stretches part.toList).filterMap FilePath.pieceComponent? = [.name part] := by
  rw [h.stretches, List.filterMap_cons_some h.pieceComponent?]
  rfl

theorem IsName.isAbsoluteText (h : IsName part) : isAbsoluteText part.toList = false := by
  refine decide_eq_false fun hhead => h.no_slash ?_
  exact List.mem_of_mem_head? hhead

/-! ### Components -/

theorem stretches_append_slash (front back : List Char) :
    stretches (front ++ '/' :: back) = stretches front ++ stretches back :=
  pieces_append_cons (decide_eq_true rfl) front back

theorem toList_append_slash (front back : String) :
    (front ++ "/" ++ back).toList = front.toList ++ '/' :: back.toList := by
  simp

theorem isAbsolute_append_slash {front : String} (hfront : front ≠ "") (back : String) :
    isAbsolute ⟨front ++ "/" ++ back⟩ = isAbsolute ⟨front⟩ := by
  have hne : front.toList ≠ [] := by
    rw [Ne, String.toList_eq_nil_iff]
    exact hfront
  rw [isAbsolute, isAbsolute, toList_append_slash, isAbsoluteText, isAbsoluteText, List.head?_append_of_ne_nil _ hne]

/-- What follows a slash adds its components to those in front of the slash. -/
theorem components_append_slash {front : String} (hfront : front ≠ "") (back : String) :
    components ⟨front ++ "/" ++ back⟩ =
      components ⟨front⟩ ++ (stretches back.toList).filterMap pieceComponent? := by
  have hhead : (stretches front.toList ++ stretches back.toList).head? = (stretches front.toList).head? :=
    List.head?_append_of_ne_nil _ (pieces_ne_nil _ _)
  rw [components, components, isAbsolute_append_slash hfront]
  dsimp only
  rw [toList_append_slash, stretches_append_slash, List.filterMap_append, hhead]
  split_ifs <;> rfl

/-- What follows a slash at the start are the components behind the root. -/
theorem components_slash_append (back : String) :
    components ⟨"/" ++ back⟩ = .root :: (stretches back.toList).filterMap pieceComponent? := by
  have hlist : ("/" ++ back).toList = '/' :: back.toList := by simp
  rw [components, isAbsolute, hlist]
  have hstretches : stretches ('/' :: back.toList) = [] :: stretches back.toList := stretches_append_slash [] _
  rw [hstretches]
  rfl

theorem IsName.components (h : IsName part) : components ⟨part⟩ = [.name part] := by
  rw [FilePath.components, isAbsolute, h.isAbsoluteText, h.filterMap_stretches, h.stretches]
  exact if_neg fun hdot => h.toList_ne_dot (Option.some.inj hdot)

theorem join_empty (h : IsName part) : join ⟨""⟩ part = ⟨part⟩ := by
  rw [join, if_neg (ne_true_of_eq_false h.isAbsoluteText), String.empty_append]
  rfl

theorem join_slash (h : IsName part) (front : String) :
    join ⟨front ++ "/"⟩ part = ⟨front ++ "/" ++ part⟩ := by
  rw [join, if_neg (ne_true_of_eq_false h.isAbsoluteText), if_pos]
  simp

theorem join_of_getLast?_ne (hrelative : isAbsoluteText part.toList = false) {base : FilePath}
    (hempty : base.text ≠ "") (hslash : base.text.toList.getLast? ≠ some '/') :
    base.join part = ⟨base.text ++ "/" ++ part⟩ := by
  rw [join, if_neg (ne_true_of_eq_false hrelative), if_neg]
  simp [hempty, hslash]

theorem components_join (base : FilePath) (h : IsName part) :
    (base.join part).components = base.components ++ [.name part] := by
  obtain ⟨text⟩ := base
  have hbehind : ∀ {front}, front ≠ "" →
      (⟨front ++ "/" ++ part⟩ : FilePath).components = (⟨front⟩ : FilePath).components ++ [.name part] := by
    intro front hfront
    rw [components_append_slash hfront, h.filterMap_stretches]
  by_cases hempty : text = ""
  · rw [hempty, join_empty h, h.components]
    rfl
  by_cases hslash : text.toList.getLast? = some '/'
  · obtain ⟨early, hearly⟩ := List.getLast?_eq_some_iff.mp hslash
    obtain rfl : text = String.ofList early ++ "/" := String.toList_injective (by simp [hearly])
    rw [join_slash h]
    by_cases hroot : String.ofList early = ""
    · have hslash := components_slash_append ""
      rw [String.append_empty] at hslash
      rw [hroot, String.empty_append, components_slash_append, hslash, h.filterMap_stretches]
      rfl
    · have hslash := components_append_slash hroot ""
      rw [String.append_empty] at hslash
      rw [hbehind hroot, hslash]
      exact congrArg (· ++ [Component.name part]) (List.append_nil _).symm
  · rw [join_of_getLast?_ne h.isAbsoluteText hempty hslash, hbehind hempty]

theorem same_iff {path other : FilePath} : path.same other = true ↔ path.components = other.components :=
  beq_iff_eq

theorem same_congr {path place : FilePath} (h : path.same place = true) (third : FilePath) :
    path.same third = place.same third := by
  rw [same, same, same_iff.mp h]

theorem same_eq_false {path place : FilePath} (h : path.components ≠ place.components) :
    path.same place = false := by
  rw [← Bool.not_eq_true, same_iff]
  exact h

/-! ### Parents -/

/-- The path ends in the name, without a slash or a dot behind it. -/
def EndsIn (path : FilePath) (part : String) : Prop :=
  ∃ early, stretches path.text.toList = early ++ [part.toList]

theorem endsIn_join (base : FilePath) (h : IsName part) : EndsIn (base.join part) part := by
  have hbehind : ∀ front, EndsIn ⟨front ++ "/" ++ part⟩ part := by
    intro front
    refine ⟨stretches front.toList, ?_⟩
    rw [toList_append_slash, stretches_append_slash, h.stretches]
  obtain ⟨text⟩ := base
  by_cases hempty : text = ""
  · rw [hempty, join_empty h]
    exact ⟨[], h.stretches⟩
  by_cases hslash : text.toList.getLast? = some '/'
  · obtain ⟨early, hearly⟩ := List.getLast?_eq_some_iff.mp hslash
    obtain rfl : text = String.ofList early ++ "/" := String.toList_injective (by simp [hearly])
    rw [join_slash h]
    exact hbehind (String.ofList early)
  · rw [join_of_getLast?_ne h.isAbsoluteText hempty hslash]
    exact hbehind text

theorem EndsIn.text_ne_empty {path : FilePath} (h : path.EndsIn part) (hpart : IsName part) : path.text ≠ "" := by
  obtain ⟨early, hearly⟩ := h
  intro hempty
  rw [hempty] at hearly
  have hlast := congrArg List.getLast? hearly
  rw [List.getLast?_concat] at hlast
  exact hpart.toList_ne_nil (Option.some.inj hlast).symm

theorem EndsIn.getLast?_ne {path : FilePath} (h : path.EndsIn part) (hpart : IsName part) :
    path.text.toList.getLast? ≠ some '/' := by
  obtain ⟨early, hearly⟩ := h
  intro hslash
  obtain ⟨front, hfront⟩ := List.getLast?_eq_some_iff.mp hslash
  rw [hfront, stretches_append_slash] at hearly
  have hlast := congrArg List.getLast? hearly
  rw [List.getLast?_concat] at hlast
  have hnil : (stretches front ++ stretches []).getLast? = some [] := List.getLast?_concat
  exact hpart.toList_ne_nil (Option.some.inj (hnil.symm.trans hlast)).symm

/-- What is joined to a path that ends in a name stands behind a slash. -/
theorem EndsIn.join_eq {path : FilePath} {name : String} (h : path.EndsIn name) (hname : IsName name)
    (hrelative : isAbsoluteText part.toList = false) : path.join part = ⟨path.text ++ "/" ++ part⟩ :=
  join_of_getLast?_ne hrelative (h.text_ne_empty hname) (h.getLast?_ne hname)

theorem dropInsignificant_name (h : IsName part) (isRooted : Bool) (earlier : List (List Char)) :
    dropInsignificant isRooted (part.toList :: earlier) = part.toList :: earlier := by
  rw [dropInsignificant, isInsignificant, if_neg]
  simp [h.ne_empty, h.toList_ne_dot]

/-- The stretches of a path behind its root. -/
def body (path : FilePath) : List (List Char) :=
  if path.isAbsolute then (stretches path.text.toList).tail else stretches path.text.toList

theorem exists_of_isAbsolute {path : FilePath} (h : path.isAbsolute = true) :
    ∃ rest, path.text.toList = '/' :: rest ∧ stretches path.text.toList = [] :: stretches rest := by
  obtain ⟨rest, hrest⟩ := List.head?_eq_some_iff.mp (of_decide_eq_true h)
  exact ⟨rest, hrest, hrest ▸ stretches_append_slash [] rest⟩

/-- Joining the stretches behind the root again gives the path back. -/
theorem ofPieces_body (path : FilePath) : ofPieces path.isAbsolute path.body.reverse = path := by
  obtain ⟨text⟩ := path
  rw [ofPieces, List.reverse_reverse, body]
  cases habsolute : isAbsolute ⟨text⟩ with
  | false =>
      have hjoined : joinPieces '/' (stretches text.toList) = text.toList := joinPieces_pieces '/' text.toList
      exact congrArg FilePath.mk ((congrArg String.ofList hjoined).trans String.ofList_toList)
  | true =>
      obtain ⟨rest, hrest, hstretches⟩ := exists_of_isAbsolute habsolute
      have hjoined : '/' :: joinPieces '/' (stretches rest) = text.toList :=
        (congrArg ('/' :: ·) (joinPieces_pieces '/' rest)).trans hrest.symm
      rw [if_pos rfl, if_pos rfl, hstretches, List.tail_cons, hjoined, String.ofList_toList]

theorem body_append_slash {front : String} (hfront : front ≠ "") (hpart : IsName part) :
    body ⟨front ++ "/" ++ part⟩ = body ⟨front⟩ ++ [part.toList] := by
  rw [body, body, isAbsolute_append_slash hfront, toList_append_slash, stretches_append_slash, hpart.stretches]
  split_ifs
  · exact List.tail_append_of_ne_nil (pieces_ne_nil _ _)
  · rfl

theorem EndsIn.body_eq {path : FilePath} (h : path.EndsIn part) (hpart : IsName part) :
    ∃ early, path.body = early ++ [part.toList] := by
  obtain ⟨early, hearly⟩ := h
  cases early with
  | nil =>
      refine ⟨[], ?_⟩
      have hrelative : ¬path.isAbsolute = true := by
        intro habsolute
        obtain ⟨rest, _, hstretches⟩ := exists_of_isAbsolute habsolute
        exact hpart.toList_ne_nil (List.cons.inj (hearly.symm.trans hstretches)).1
      rw [body, if_neg hrelative, hearly]
  | cons first early =>
      rw [body, hearly]
      split_ifs
      · exact ⟨early, rfl⟩
      · exact ⟨first :: early, rfl⟩

theorem EndsIn.significantPieces {path : FilePath} (h : path.EndsIn part) (hpart : IsName part) :
    path.significantPieces = path.body.reverse := by
  obtain ⟨early, hbody⟩ := h.body_eq hpart
  show dropInsignificant _ path.body.reverse = _
  rw [hbody, List.reverse_concat, dropInsignificant_name hpart]

section Join

variable {path : FilePath} {name : String}

theorem EndsIn.isAbsolute_join (h : path.EndsIn name) (hname : IsName name) (hpart : IsName part) :
    (path.join part).isAbsolute = path.isAbsolute := by
  rw [h.join_eq hname hpart.isAbsoluteText]
  exact isAbsolute_append_slash (h.text_ne_empty hname) part

theorem EndsIn.body_join (h : path.EndsIn name) (hname : IsName name) (hpart : IsName part) :
    (path.join part).body = path.body ++ [part.toList] := by
  rw [h.join_eq hname hpart.isAbsoluteText]
  exact body_append_slash (h.text_ne_empty hname) hpart

theorem EndsIn.significantPieces_join (h : path.EndsIn name) (hname : IsName name) (hpart : IsName part) :
    (path.join part).significantPieces = part.toList :: path.body.reverse := by
  rw [(endsIn_join path hpart).significantPieces hpart, h.body_join hname hpart, List.reverse_concat]

theorem EndsIn.ofPieces_join (h : path.EndsIn name) (hname : IsName name) (hpart : IsName part) :
    ofPieces path.isAbsolute (part.toList :: path.body.reverse) = path.join part := by
  rw [← List.reverse_concat, ← h.body_join hname hpart, ← h.isAbsolute_join hname hpart, ofPieces_body]

/-- The path in front of a name is its parent if it ends in a name itself. -/
theorem EndsIn.parent?_join (h : path.EndsIn name) (hname : IsName name) (hpart : IsName part) :
    (path.join part).parent? = some path := by
  have hpath : dropInsignificant path.isAbsolute path.body.reverse = path.body.reverse := h.significantPieces hname
  rw [parent?, h.significantPieces_join hname hpart, h.isAbsolute_join hname hpart]
  dsimp only
  rw [hpath, ofPieces_body]

theorem ancestorsOf_name (hpart : IsName part) (isRooted : Bool) (earlier : List (List Char)) :
    ancestorsOf isRooted (part.toList :: earlier) =
      ofPieces isRooted (part.toList :: earlier) :: ancestorsOf isRooted earlier := by
  rw [ancestorsOf, isInsignificant, if_neg]
  simp [hpart.ne_empty, hpart.toList_ne_dot]

theorem EndsIn.ancestors_join (h : path.EndsIn name) (hname : IsName name) (hpart : IsName part) :
    (path.join part).ancestors = path.join part :: path.ancestors := by
  rw [ancestors, h.significantPieces_join hname hpart, h.isAbsolute_join hname hpart, ancestorsOf_name hpart,
    h.ofPieces_join hname hpart, ancestors, h.significantPieces hname]

theorem EndsIn.ancestors_eq (h : path.EndsIn name) (hname : IsName name) :
    ∃ outer, path.ancestors = path :: outer := by
  obtain ⟨early, hbody⟩ := h.body_eq hname
  have hpieces : path.body.reverse = name.toList :: early.reverse := by rw [hbody, List.reverse_concat]
  refine ⟨ancestorsOf path.isAbsolute early.reverse, ?_⟩
  rw [ancestors, h.significantPieces hname, hpieces, ancestorsOf_name hname, ← hpieces, ofPieces_body]

/-- Another extension makes another name in the same directory. -/
theorem EndsIn.withExtension_join (h : path.EndsIn name) (hname : IsName name) (hpart : IsName part)
    {extension other : String} (hother : IsName other)
    (hstem : other.toList = stem part.toList ++ '.' :: extension.toList) :
    (path.join part).withExtension extension = path.join other := by
  have hnotDots : ¬((part.toList = ['.'] || part.toList = ['.', '.']) = true) := by
    simp [hpart.toList_ne_dot, hpart.toList_ne_dots]
  rw [withExtension, h.significantPieces_join hname hpart, h.isAbsolute_join hname hpart]
  dsimp only
  rw [if_neg hnotDots, ← hstem, h.ofPieces_join hname hother]

end Join

/-- The path ends in some name. -/
def IsNamed (path : FilePath) : Prop := ∃ part, IsName part ∧ path.EndsIn part

theorem isNamed_join (base : FilePath) (hpart : IsName part) : (base.join part).IsNamed :=
  ⟨part, hpart, endsIn_join base hpart⟩

end ApiProxy.FilePath
