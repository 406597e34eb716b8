import ApiProxy.Proofs.Names.Parameters

/-! The characters of identifiers. A name that is made fit holds nothing but letters, digits, `_` and `$`, and so do
the identifiers of parameters, which only gain underscores. It starts like an identifier and is no reserved word, and
a number behind it changes neither. -/

namespace ApiProxy.Script

variable {c : Char} {identifier : String}

theorem isIdentifierPart_of_mem_replaceForbidden {name : List Char} (h : c ∈ replaceForbidden name) :
    isIdentifierPart c = true := by
  obtain ⟨d, _, rfl⟩ := List.mem_map.mp h
  split
  next hpart => exact hpart
  next => decide

theorem isIdentifierPart_of_mem_guardStart {text : List Char} (htext : ∀ d ∈ text, isIdentifierPart d = true)
    (h : c ∈ guardStart text) : isIdentifierPart c = true := by
  rw [guardStart.eq_def] at h
  split at h
  · cases List.mem_singleton.mp h
    decide
  · split at h
    · rcases List.mem_cons.mp h with rfl | h
      · decide
      · exact htext c h
    · exact htext c h

theorem isIdentifierPart_of_mem_sanitize {name : String} (h : c ∈ (sanitize name).toList) :
    isIdentifierPart c = true := by
  have htext : ∀ d ∈ guardStart (replaceForbidden name.toList), isIdentifierPart d = true :=
    fun d hd => isIdentifierPart_of_mem_guardStart (fun _ => isIdentifierPart_of_mem_replaceForbidden) hd
  rw [sanitize] at h
  split at h
  · rw [String.toList_append, String.toList_ofList] at h
    rcases List.mem_append.mp h with h | h
    · exact htext c h
    · have hunderscore : "_".toList.all isIdentifierPart = true := by decide
      exact List.all_eq_true.mp hunderscore c h
  · rw [String.toList_ofList] at h
    exact htext c h

theorem isIdentifierPart_of_mem_padded {name : String} (hname : ∀ d ∈ name.toList, isIdentifierPart d = true)
    {count : Nat} (h : c ∈ (padded name count).toList) : isIdentifierPart c = true := by
  rw [padded, String.toList_append, String.toList_ofList] at h
  rcases List.mem_append.mp h with h | h
  · exact hname c h
  · cases List.eq_of_mem_replicate h
    decide

theorem isIdentifierPart_of_mem_paddedNames {taken requested : List String}
    (hidentifier : identifier ∈ paddedNames taken requested) (h : c ∈ identifier.toList) :
    isIdentifierPart c = true := by
  obtain ⟨name, _, count, rfl⟩ := exists_padded_of_mem_paddedNames hidentifier
  exact isIdentifierPart_of_mem_padded (fun _ => isIdentifierPart_of_mem_sanitize) h

theorem isIdentifierPart_of_mem_parameterIdentifiers {action : Action} {helper : Helper}
    (hidentifier : identifier ∈ parameterIdentifiers action helper) (h : c ∈ identifier.toList) :
    isIdentifierPart c = true :=
  isIdentifierPart_of_mem_paddedNames hidentifier h

/-! ### Whole identifiers -/

theorem isIdentifier_of_cons {name : String} {rest : List Char} (hname : name.toList = c :: rest)
    (hstart : isIdentifierStart c = true) (hrest : ∀ d ∈ rest, isIdentifierPart d = true) :
    isIdentifier name = true := by
  rw [isIdentifier, hname]
  simp only [hstart, Bool.true_and, List.all_eq_true]
  exact hrest

theorem exists_cons_of_isIdentifier {name : String} (h : isIdentifier name = true) :
    ∃ c rest, name.toList = c :: rest ∧ isIdentifierStart c = true ∧ ∀ d ∈ rest, isIdentifierPart d = true := by
  rw [isIdentifier] at h
  cases hname : name.toList with
  | nil =>
      rw [hname] at h
      cases h
  | cons c rest =>
      rw [hname] at h
      simp only [Bool.and_eq_true, List.all_eq_true] at h
      exact ⟨c, rest, rfl, h⟩

theorem isIdentifierPart_of_isIdentifierStart (h : isIdentifierStart c = true) : isIdentifierPart c = true := by
  simp only [isIdentifierStart, isIdentifierPart, Char.isAlphanum, Bool.or_eq_true] at h ⊢
  tauto

theorem isIdentifierPart_of_isDigit (h : c.isDigit = true) : isIdentifierPart c = true := by
  simp [isIdentifierPart, Char.isAlphanum, h]

theorem isIdentifierStart_of_not_isDigit (h : isIdentifierPart c = true) (hdigit : ¬c.isDigit = true) :
    isIdentifierStart c = true := by
  simp only [isIdentifierStart, isIdentifierPart, Char.isAlphanum, Bool.or_eq_true] at h ⊢
  tauto

theorem isIdentifierPart_of_mem {name : String} (h : isIdentifier name = true) (hc : c ∈ name.toList) :
    isIdentifierPart c = true := by
  obtain ⟨first, rest, hname, hstart, hrest⟩ := exists_cons_of_isIdentifier h
  rw [hname] at hc
  rcases List.mem_cons.mp hc with rfl | hc
  · exact isIdentifierPart_of_isIdentifierStart hstart
  · exact hrest c hc

/-- What follows an identifier may be any text of the characters that it may hold. -/
theorem isIdentifier_append {name tail : String} (h : isIdentifier name = true)
    (htail : ∀ d ∈ tail.toList, isIdentifierPart d = true) : isIdentifier (name ++ tail) = true := by
  obtain ⟨first, rest, hname, hstart, hrest⟩ := exists_cons_of_isIdentifier h
  have happend : (name ++ tail).toList = first :: (rest ++ tail.toList) := by
    rw [String.toList_append, hname, List.cons_append]
  apply isIdentifier_of_cons happend hstart
  intro d hd
  rcases List.mem_append.mp hd with hd | hd
  · exact hrest d hd
  · exact htail d hd

theorem isIdentifier_guardStart {text : List Char} (h : ∀ d ∈ text, isIdentifierPart d = true) :
    isIdentifier (String.ofList (guardStart text)) = true := by
  cases text with
  | nil => decide
  | cons first rest =>
      rw [List.forall_mem_cons] at h
      by_cases hdigit : first.isDigit = true
      · have hguarded : (String.ofList (guardStart (first :: rest))).toList = '_' :: first :: rest := by
          rw [String.toList_ofList, guardStart, if_pos hdigit]
        apply isIdentifier_of_cons hguarded
        · decide
        · exact List.forall_mem_cons.mpr h
      · have hkept : (String.ofList (guardStart (first :: rest))).toList = first :: rest := by
          rw [String.toList_ofList, guardStart, if_neg hdigit]
        apply isIdentifier_of_cons hkept
        · exact isIdentifierStart_of_not_isDigit h.1 hdigit
        · exact h.2

/-- Whatever a name holds, it is made fit for an identifier. -/
theorem isIdentifier_sanitize (name : String) : isIdentifier (sanitize name) = true := by
  have htext : isIdentifier (String.ofList (guardStart (replaceForbidden name.toList))) = true :=
    isIdentifier_guardStart fun d hd => isIdentifierPart_of_mem_replaceForbidden hd
  rw [sanitize]
  split
  · exact isIdentifier_append htext (List.all_eq_true.mp (by decide))
  · exact htext

theorem isDigit_of_mem_toString {n : Nat} (h : c ∈ (toString n).toList) : c.isDigit = true := by
  rw [Nat.toString_eq_repr, Nat.toList_repr] at h
  exact Nat.isDigit_of_mem_toDigits (by decide) (by decide) h

theorem isIdentifier_numbered {name : String} (h : isIdentifier name = true) (k : Nat) :
    isIdentifier (numbered name k) = true := by
  cases k with
  | zero => exact h
  | succ k =>
      apply isIdentifier_append h
      intro d hd
      exact isIdentifierPart_of_isDigit (isDigit_of_mem_toString hd)

theorem isIdentifier_padded {name : String} (h : isIdentifier name = true) (count : Nat) :
    isIdentifier (padded name count) = true := by
  apply isIdentifier_append h
  intro d hd
  rw [String.toList_ofList] at hd
  cases List.eq_of_mem_replicate hd
  decide

/-! ### Reserved words -/

theorem isAlpha_of_mem_reservedWords {word : String} (h : word ∈ reservedWords) :
    ∀ d ∈ word.toList, d.isAlpha = true := by
  have hall : ∀ word ∈ reservedWords, word.toList.all Char.isAlpha = true := by decide +kernel
  exact List.all_eq_true.mp (hall word h)

theorem isIdentifier_of_mem_reservedWords {word : String} (h : word ∈ reservedWords) : isIdentifier word = true := by
  have hall : ∀ word ∈ reservedWords, isIdentifier word = true := by decide +kernel
  exact hall word h

/-- What ends in something else than a letter is no word of letters. -/
theorem append_ne_of_letters {word tail : String} (hword : ∀ d ∈ word.toList, d.isAlpha = true) (hne : tail ≠ "")
    (htail : ∀ d ∈ tail.toList, ¬d.isAlpha = true) (name : String) : name ++ tail ≠ word := by
  rintro rfl
  obtain ⟨d, hd⟩ := List.exists_mem_of_ne_nil tail.toList fun hnil => hne (String.toList_eq_nil_iff.mp hnil)
  apply htail d hd
  apply hword
  rw [String.toList_append]
  exact List.mem_append_right name.toList hd

theorem not_isAlpha_of_isDigit {d : Char} (h : d.isDigit = true) : ¬d.isAlpha = true := by
  have hhigh : d.val ≤ '9'.val := of_decide_eq_true ((Bool.and_eq_true _ _).mp h).2
  intro halpha
  rcases (Bool.or_eq_true _ _).mp halpha with hupper | hlower
  · have hlow : 'A'.val ≤ d.val := (of_decide_eq_true hupper).1
    exact absurd (UInt32.le_trans hlow hhigh) (by decide)
  · have hlow : 'a'.val ≤ d.val := of_decide_eq_true ((Bool.and_eq_true _ _).mp hlower).1
    exact absurd (UInt32.le_trans hlow hhigh) (by decide)

theorem numbered_ne_of_letters {word : String} (hword : ∀ d ∈ word.toList, d.isAlpha = true) (name : String) (k : Nat) :
    numbered name (k + 1) ≠ word := by
  apply append_ne_of_letters hword
  · exact Nat.repr_ne_empty
  · intro d hd
    exact not_isAlpha_of_isDigit (isDigit_of_mem_toString hd)

theorem padded_ne_of_letters {word : String} (hword : ∀ d ∈ word.toList, d.isAlpha = true) (name : String)
    (count : Nat) : padded name (count + 1) ≠ word := by
  apply append_ne_of_letters hword
  · rw [List.replicate_succ]
    exact fun hnil => List.cons_ne_nil _ _ (String.ofList_eq_empty_iff.mp hnil)
  · intro d hd
    rw [String.toList_ofList] at hd
    cases List.eq_of_mem_replicate hd
    decide

theorem append_underscore_ne_of_letters {word : String} (hword : ∀ d ∈ word.toList, d.isAlpha = true) (name : String) :
    name ++ "_" ≠ word :=
  padded_ne_of_letters hword name 0

theorem sanitize_notMem_reservedWords (name : String) : sanitize name ∉ reservedWords := by
  rw [sanitize]
  split
  · exact fun hmem => append_underscore_ne_of_letters (isAlpha_of_mem_reservedWords hmem) _ rfl
  · assumption

theorem numbered_notMem_reservedWords {name : String} (h : name ∉ reservedWords) (k : Nat) :
    numbered name k ∉ reservedWords := by
  cases k with
  | zero => exact h
  | succ k => exact fun hmem => numbered_ne_of_letters (isAlpha_of_mem_reservedWords hmem) name k rfl

theorem padded_notMem_reservedWords {name : String} (h : name ∉ reservedWords) (count : Nat) :
    padded name count ∉ reservedWords := by
  cases count with
  | zero =>
      rw [padded, List.replicate_zero, String.ofList_nil, String.append_empty]
      exact h
  | succ count => exact fun hmem => padded_ne_of_letters (isAlpha_of_mem_reservedWords hmem) name count rfl

theorem isIdentifier_of_mem_paddedNames {taken requested : List String} (h : identifier ∈ paddedNames taken requested) :
    isIdentifier identifier = true ∧ identifier ∉ reservedWords := by
  obtain ⟨name, _, count, rfl⟩ := exists_padded_of_mem_paddedNames h
  exact ⟨isIdentifier_padded (isIdentifier_sanitize name) count,
    padded_notMem_reservedWords (sanitize_notMem_reservedWords name) count⟩

/-! ### Names that are fit -/

theorem replaceForbidden_eq_self {name : List Char} (h : ∀ d ∈ name, isIdentifierPart d = true) :
    replaceForbidden name = name := by
  have hkept : ∀ d ∈ name, (if isIdentifierPart d then d else '_') = d := fun d hd => if_pos (h d hd)
  rw [replaceForbidden, List.map_congr_left hkept, List.map_id']

theorem not_isDigit_of_isIdentifierStart (h : isIdentifierStart c = true) : ¬c.isDigit = true := by
  intro hdigit
  rw [isIdentifierStart, Bool.or_eq_true, Bool.or_eq_true, decide_eq_true_eq, decide_eq_true_eq] at h
  rcases h with (hletter | rfl) | rfl
  · exact not_isAlpha_of_isDigit hdigit hletter
  · cases hdigit
  · cases hdigit

/-- An identifier holds nothing to replace and needs nothing in front. -/
theorem guardStart_replaceForbidden_eq_self {name : String} (h : isIdentifier name = true) :
    guardStart (replaceForbidden name.toList) = name.toList := by
  obtain ⟨c, rest, hname, hstart, -⟩ := exists_cons_of_isIdentifier h
  rw [replaceForbidden_eq_self fun d hd => isIdentifierPart_of_mem h hd, hname]
  exact if_neg (not_isDigit_of_isIdentifierStart hstart)

/-- Nothing is done to an identifier that is no reserved word. -/
theorem sanitize_eq_self {name : String} (h : isIdentifier name = true) (hreserved : name ∉ reservedWords) :
    sanitize name = name := by
  rw [sanitize, guardStart_replaceForbidden_eq_self h, String.ofList_toList]
  exact if_neg hreserved

/-- Whatever is done to a name leaves an underscore in it. -/
theorem guardStart_eq_self {text : List Char} (h : '_' ∉ guardStart text) : guardStart text = text := by
  rw [guardStart.eq_def] at h ⊢
  split at h
  · exact absurd (List.mem_singleton_self _) h
  next c rest =>
    split at h
    · exact absurd List.mem_cons_self h
    next hdigit => exact if_neg hdigit

theorem replaceForbidden_eq_self_of_notMem {name : List Char} (h : '_' ∉ replaceForbidden name) :
    replaceForbidden name = name := by
  apply replaceForbidden_eq_self
  intro d hd
  by_contra hpart
  exact h (List.mem_map.mpr ⟨d, hd, if_neg hpart⟩)

theorem eq_of_text_eq_letters {name word : String} (hword : ∀ d ∈ word.toList, d.isAlpha = true)
    (h : String.ofList (guardStart (replaceForbidden name.toList)) = word) : name = word := by
  have hunderscore : '_' ∉ word.toList := fun hmem => absurd (hword '_' hmem) (by decide)
  have htext : guardStart (replaceForbidden name.toList) = word.toList := by rw [← h, String.toList_ofList]
  have hguard := guardStart_eq_self (htext ▸ hunderscore)
  rw [hguard] at htext
  rw [replaceForbidden_eq_self_of_notMem (htext ▸ hunderscore)] at htext
  exact String.toList_inj.mp htext

/-- A word of letters is what becomes of itself alone. -/
theorem sanitize_eq_letters_iff {word : String} (hword : ∀ d ∈ word.toList, d.isAlpha = true)
    (hidentifier : isIdentifier word = true) (hreserved : word ∉ reservedWords) {name : String} :
    sanitize name = word ↔ name = word := by
  constructor
  · intro h
    rw [sanitize] at h
    split at h
    · exact absurd h (append_underscore_ne_of_letters hword _)
    · exact eq_of_text_eq_letters hword h
  · rintro rfl
    exact sanitize_eq_self hidentifier hreserved

/-! ### Names that are free -/

/-- A name that may be bound in a file: an identifier with no meaning of its own. -/
structure IsFreeName (name : String) : Prop where
  identifier : isIdentifier name = true
  unreserved : name ∉ reservedWords
  unglobal : name ∉ runtimeGlobals

theorem isFreeName_of_mem_freshNames {name : String} {taken asked : List String} (hglobals : runtimeGlobals ⊆ taken)
    (hasked : ∀ request ∈ asked, ∃ text, request = sanitize text) (h : name ∈ freshNames taken asked) :
    IsFreeName name := by
  obtain ⟨request, hrequest, k, rfl⟩ := exists_numbered_of_mem_freshNames h
  obtain ⟨text, rfl⟩ := hasked request hrequest
  constructor
  · exact isIdentifier_numbered (isIdentifier_sanitize text) k
  · exact numbered_notMem_reservedWords (sanitize_notMem_reservedWords text) k
  · intro hmem
    exact notMem_of_mem_freshNames h (hglobals hmem)

end ApiProxy.Script
