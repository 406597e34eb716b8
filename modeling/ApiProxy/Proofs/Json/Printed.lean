import ApiProxy.Proofs.Json.Spelling

/-! Values read back as they were printed: the text of a value is one of the spellings of its tree, the one without
blanks. -/

namespace ApiProxy.Json

mutual

/-- The tree that stands for a value. -/
def Value.tree : Value → Tree
  | .boolean value => .boolean value
  | .integer value => .number (some (.integer value))
  | .text value => .text (some value)
  | .array items => .array (itemTrees items) .closed
  | .object members => .object (memberTrees members) .closed

def itemTrees : List Value → List Tree
  | [] => []
  | item :: items => item.tree :: itemTrees items

def memberTrees : List (String × Value) → List (Key × Tree)
  | [] => []
  | (name, value) :: members => (.text (some name), value.tree) :: memberTrees members

end

/-- All integers of the value are kept by a document as they are. -/
inductive Value.Fits : Value → Prop where
  | boolean (value : Bool) : Fits (.boolean value)
  | integer {value : Int} (h : InRange value) : Fits (.integer value)
  | text (value : String) : Fits (.text value)
  | array {items : List Value} (h : ∀ item ∈ items, Fits item) : Fits (.array items)
  | object {members : List (String × Value)} (h : ∀ member ∈ members, Fits member.2) : Fits (.object members)

attribute [simp] Value.Fits.boolean Value.Fits.text

/-! ### The text of a value -/

/-- The items behind the first one, each behind a comma. -/
def laterItems (items : List Value) : List Char := items.flatMap fun item => ',' :: item.print

def laterMembers (members : List (String × Value)) : List Char :=
  members.flatMap fun member => ',' :: quoted member.1.toList ++ ':' :: member.2.print

theorem laterItems_cons (item : Value) (items : List Value) :
    laterItems (item :: items) = ',' :: (item.print ++ laterItems items) := rfl

theorem laterMembers_cons (member : String × Value) (members : List (String × Value)) :
    laterMembers (member :: members) =
      ',' :: (quoted member.1.toList ++ ':' :: (member.2.print ++ laterMembers members)) := by
  simp [laterMembers]

theorem printItems_cons (item : Value) (items : List Value) :
    Value.printItems (item :: items) = item.print ++ laterItems items := by
  induction items generalizing item with
  | nil => rw [Value.printItems, laterItems, List.flatMap_nil, List.append_nil]
  | cons next items ih =>
      rw [Value.printItems, ih, laterItems_cons]
      exact List.cons_ne_nil _ _

theorem printMembers_cons (member : String × Value) (members : List (String × Value)) :
    Value.printMembers (member :: members) =
      quoted member.1.toList ++ ':' :: (member.2.print ++ laterMembers members) := by
  induction members generalizing member with
  | nil => rw [Value.printMembers, laterMembers, List.flatMap_nil, List.append_nil]
  | cons next members ih =>
      rw [Value.printMembers, ih, laterMembers_cons, List.append_assoc, List.cons_append]
      exact List.cons_ne_nil _ _

/-! ### What it spells -/

theorem spells_laterItems {items : List Value}
    (h : ∀ item ∈ items, Spells item.print (.value item.tree)) :
    Spells (laterItems items ++ [']']) (.items false (itemTrees items)) := by
  have hblanks : Blanks [] := List.forall_mem_nil _
  induction items with
  | nil => exact .endOfItems false hblanks
  | cons item items ih =>
      obtain ⟨hitem, hitems⟩ := List.forall_mem_cons.mp h
      rw [laterItems_cons, List.cons_append, List.append_assoc]
      exact @Spells.item false [] [] _ _ _ _ hblanks hblanks hitem (ih hitems)

theorem spells_printItems {items : List Value} (h : ∀ item ∈ items, Spells item.print (.value item.tree)) :
    Spells (Value.printItems items ++ [']']) (.items true (itemTrees items)) := by
  have hblanks : Blanks [] := List.forall_mem_nil _
  cases items with
  | nil => exact .endOfItems true hblanks
  | cons item items =>
      obtain ⟨hitem, hitems⟩ := List.forall_mem_cons.mp h
      rw [printItems_cons, List.append_assoc]
      exact @Spells.item true [] [] _ _ _ _ hblanks hblanks hitem (spells_laterItems hitems)

/-- One member, without blanks. -/
theorem spells_member (isFirst : Bool) (name : String) {value : Value} (hvalue : Spells value.print (.value value.tree))
    {rest : List Char} {members : List (Key × Tree)} (hmembers : Spells rest (.members false members)) :
    Spells (separator isFirst ++ (quoted name.toList ++ ':' :: (value.print ++ rest)))
      (.members isFirst ((.text (some name), value.tree) :: members)) := by
  have hblanks : Blanks [] := List.forall_mem_nil _
  have hkey := readQuotation_text name []
  have hquoted : quoted name.toList ++ ':' :: (value.print ++ rest) =
      '"' :: ((name.toList.flatMap escape ++ ['"']) ++ ':' :: (value.print ++ rest)) := by simp [quoted]
  rw [hquoted]
  exact @Spells.member isFirst [] [] _ [] [] _ _ _ _ _ hblanks hblanks hkey hblanks hblanks hvalue hmembers

theorem spells_laterMembers {members : List (String × Value)}
    (h : ∀ member ∈ members, Spells member.2.print (.value member.2.tree)) :
    Spells (laterMembers members ++ ['\x7d']) (.members false (memberTrees members)) := by
  induction members with
  | nil => exact .endOfMembers false (List.forall_mem_nil _)
  | cons member members ih =>
      obtain ⟨hmember, hmembers⟩ := List.forall_mem_cons.mp h
      rw [laterMembers_cons, List.cons_append, List.append_assoc, List.cons_append, List.append_assoc]
      exact spells_member false member.1 hmember (ih hmembers)

theorem spells_printMembers {members : List (String × Value)}
    (h : ∀ member ∈ members, Spells member.2.print (.value member.2.tree)) :
    Spells (Value.printMembers members ++ ['\x7d']) (.members true (memberTrees members)) := by
  cases members with
  | nil => exact .endOfMembers true (List.forall_mem_nil _)
  | cons member members =>
      obtain ⟨hmember, hmembers⟩ := List.forall_mem_cons.mp h
      rw [printMembers_cons, List.append_assoc, List.cons_append, List.append_assoc]
      exact spells_member true member.1 hmember (spells_laterMembers hmembers)

/-- Values whose integers a document can hold are spelled as they are printed. -/
theorem Value.Fits.spells {value : Value} (h : value.Fits) : Spells value.print (.value value.tree) := by
  -- The induction is on what fits, so that the items of an array come with their own hypotheses.
  induction h with
  | boolean value => cases value <;> exact .scalar rfl
  | @integer value hrange =>
      have hends : EndsNumber [] := fun c hc => by cases hc
      have hread := scalar_integer hrange hends
      rw [List.append_nil] at hread
      exact .scalar hread
  | text value =>
      refine .scalar ?_
      have hread := readQuotation_text value []
      simp [Value.print, quoted, scalar, hread, Value.tree]
  | array _ ih => exact .array (spells_printItems ih)
  | object _ ih => exact .object (spells_printMembers ih)

theorem Document.ofText_print {value : Value} (h : value.Fits) :
    Document.ofText value.print = ⟨value.tree, true⟩ := by
  refine SpellsDocument.ofText_eq ⟨[], value.print, [], ?_, List.forall_mem_nil _, List.forall_mem_nil _, h.spells⟩
  rw [List.nil_append, List.append_nil]

end ApiProxy.Json
