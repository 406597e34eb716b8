import ApiProxy.Proofs.Names.Identifiers

/-! Names made fit for identifiers. What becomes of a name can be told from the name itself: its forbidden characters
become underscores, and one more underscore stands in front of what is empty or starts with a digit and behind a reserved
word. The result is an identifier and no reserved word, and it stays one with underscores or a number behind it. A name
that is fit already is left alone, and no other is. -/

namespace ApiProxy.Script

variable {name : String}

/-- An identifier that is no reserved word. -/
structure IsUnreservedIdentifier (name : String) : Prop where
  identifier : isIdentifier name = true
  unreserved : name ∉ reservedWords

/-- The underscore in front of a name that is empty or starts with a digit. -/
def markBefore (name : String) : List Char := if name.toList.head?.all Char.isDigit then ['_'] else []

/-- The underscore behind a reserved word. -/
def markBehind (name : String) : List Char := if name ∈ reservedWords then ['_'] else []

/-! ### The name itself tells what becomes of it -/

theorem isDigit_replaced (c : Char) : (if isIdentifierPart c then c else '_').isDigit = c.isDigit := by
  split
  next => rfl
  next hpart =>
    have hdigit : ¬c.isDigit = true := fun hdigit => hpart (isIdentifierPart_of_isDigit hdigit)
    rw [eq_false_of_ne_true hdigit]
    decide

/-- Replacing characters neither makes nor takes away a digit at the start. -/
theorem guardStart_replaceForbidden (name : String) :
    guardStart (replaceForbidden name.toList) = markBefore name ++ replaceForbidden name.toList := by
  rw [markBefore]
  cases name.toList with
  | nil => rfl
  | cons c rest =>
      rw [replaceForbidden, List.map_cons, guardStart, isDigit_replaced, List.head?_cons, Option.all_some]
      by_cases hdigit : c.isDigit = true
      · rw [if_pos hdigit, if_pos hdigit, List.singleton_append]
      · rw [if_neg hdigit, if_neg hdigit, List.nil_append]

/-- A reserved word is what is left of itself alone, so it can be told from the name whether it gets an underscore at
its end. -/
theorem text_mem_reservedWords_iff :
    String.ofList (guardStart (replaceForbidden name.toList)) ∈ reservedWords ↔ name ∈ reservedWords := by
  constructor
  · intro hmem
    -- anything replaced or put in front would be an underscore in a word of letters
    rw [eq_of_text_eq_letters (isAlpha_of_mem_reservedWords hmem) rfl]
    exact hmem
  · intro hmem
    rw [guardStart_replaceForbidden_eq_self (isIdentifier_of_mem_reservedWords hmem), String.ofList_toList]
    exact hmem

theorem toList_sanitize (name : String) :
    (sanitize name).toList = markBefore name ++ replaceForbidden name.toList ++ markBehind name := by
  rw [sanitize, markBehind, ← guardStart_replaceForbidden]
  simp only [text_mem_reservedWords_iff]
  split
  · rw [String.toList_append, String.toList_ofList]
    rfl
  · rw [String.toList_ofList, List.append_nil]

/-! ### Names that are fit -/

theorem isUnreservedIdentifier_sanitize (name : String) : IsUnreservedIdentifier (sanitize name) :=
  ⟨isIdentifier_sanitize name, sanitize_notMem_reservedWords name⟩

theorem sanitize_eq_self_iff : sanitize name = name ↔ IsUnreservedIdentifier name := by
  constructor
  · intro h
    rw [← h]
    exact isUnreservedIdentifier_sanitize name
  · intro h
    exact sanitize_eq_self h.identifier h.unreserved

instance : DecidablePred IsUnreservedIdentifier := fun _ => decidable_of_iff _ sanitize_eq_self_iff

example : ["userName", "$id", "user-name", "1st", "", "default"].filter (IsUnreservedIdentifier ·) =
    ["userName", "$id"] := by
  decide +kernel

theorem IsUnreservedIdentifier.padded (h : IsUnreservedIdentifier name) (count : Nat) :
    IsUnreservedIdentifier (padded name count) :=
  ⟨isIdentifier_padded h.identifier count, padded_notMem_reservedWords h.unreserved count⟩

theorem IsUnreservedIdentifier.numbered (h : IsUnreservedIdentifier name) (k : Nat) :
    IsUnreservedIdentifier (numbered name k) :=
  ⟨isIdentifier_numbered h.identifier k, numbered_notMem_reservedWords h.unreserved k⟩

/-- A name that is made fit is an identifier and no reserved word, and it stays one with underscores or a number behind
it. The names that are left alone are those that are fit already, so a second time changes nothing. In the others each
forbidden character becomes an underscore, and at most one underscore is added in front and one behind. -/
theorem sanitized_names_stay_unreserved (name : String) :
    IsUnreservedIdentifier (sanitize name) ∧
    (sanitize name = name ↔ IsUnreservedIdentifier name) ∧
    sanitize (sanitize name) = sanitize name ∧
    (∀ count, IsUnreservedIdentifier (sanitize name ++ String.ofList (List.replicate count '_'))) ∧
    (∀ number, 2 ≤ number → IsUnreservedIdentifier (sanitize name ++ toString number)) ∧
    (sanitize name).toList = markBefore name ++ replaceForbidden name.toList ++ markBehind name := by
  have hfit := isUnreservedIdentifier_sanitize name
  refine ⟨hfit, sanitize_eq_self_iff, sanitize_eq_self_iff.mpr hfit, hfit.padded, ?_, toList_sanitize name⟩
  intro number hnumber
  obtain ⟨k, rfl⟩ := Nat.exists_eq_add_of_le' hnumber
  exact hfit.numbered (k + 1)

theorem delete_stays_unreserved :
    2 ≤ 10 ∧ sanitize "delete" = "delete_" ∧ IsUnreservedIdentifier "delete_10" := by
  have hmade : sanitize "delete" = "delete_" := by decide +kernel
  obtain ⟨-, -, -, -, hnumbers, -⟩ := sanitized_names_stay_unreserved "delete"
  have hnumber := hnumbers 10 (by decide)
  rw [hmade] at hnumber
  exact ⟨by decide, hmade, hnumber⟩

example : ["", "2fa", "größe", "delete", "Page<User>", "$id"].map sanitize =
    ["_", "_2fa", "gr__e", "delete_", "Page_User_", "$id"] := by
  decide +kernel

end ApiProxy.Script
