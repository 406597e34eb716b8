import ApiProxy.Proofs.Names.TypeNames
import ApiProxy.Proofs.Script.Declarations
import ApiProxy.Proofs.Script.ModelLine
import ApiProxy.Proofs.Text.Pieces

/-! The model file read back line by line. A reader that knows nothing of the schema goes through the lines and keeps
the declarations that are closed and the one that is open; a declaration takes it from an open place to the next one
and adds what the declaration tells. So the file tells each declared type of the list, in the order of the list, and
nothing else. -/

namespace ApiProxy.Script

/-! ### The reader -/

/-- Reads one more line into an open declaration. -/
def DeclarationReading.readLine : DeclarationReading → List Char → Option DeclarationReading
  | interface identifier fields, line => (readField line).map fun field => .interface identifier (fields ++ [field])
  | enumeration identifier members, line =>
    (readMember line).map fun member => .enumeration identifier (members ++ [member])

def readHeader (line : List Char) : Option DeclarationReading :=
  match readOpening "export interface " line with
  | some identifier => some (.interface identifier [])
  | none => (readOpening "export enum " line).map fun identifier => .enumeration identifier []

/-- The declarations that were closed so far, and the one that is open. -/
structure ModelReader where
  closed : List DeclarationReading
  open? : Option DeclarationReading

def ModelReader.step (reader : ModelReader) (line : List Char) : Option ModelReader :=
  match reader.open? with
  | none =>
    if line = [] then some reader
    else (readHeader line).map fun declaration => { reader with open? := some declaration }
  | some declaration =>
    if line = ['\x7d'] then some ⟨reader.closed ++ [declaration], none⟩
    else (declaration.readLine line).map fun declaration => { reader with open? := some declaration }

/-- Reads a model file: an empty export alone, or lines that leave no declaration open. -/
def readModel (text : String) : Option (List DeclarationReading) :=
  if text = declarationsText [] then some []
  else
    match (pieces (· = '\n') text.toList).foldlM ModelReader.step ⟨[], none⟩ with
    | some ⟨closed, none⟩ => some closed
    | _ => none

/-! ### Declarations as lines -/

namespace Declaration

/-- What a declaration tells its reader. -/
def reading : Declaration → DeclarationReading
  | interface identifier fields =>
    .interface identifier (fields.map fun field => ⟨field.1, field.2.1.text, field.2.2⟩)
  | enumeration identifier members => .enumeration identifier members

def keyword : Declaration → String
  | interface _ _ => "export interface "
  | enumeration _ _ => "export enum "

/-- The lines between the first and the last one. -/
def body : Declaration → List (List Char)
  | interface _ fields => fields.map fun field => fieldText field.1 field.2.1 field.2.2
  | enumeration _ members => members.map memberText

def lines (declaration : Declaration) : List (List Char) :=
  openingText declaration.keyword declaration.identifier :: (declaration.body ++ [['\x7d']])

/-- A declaration goes by an identifier, and its types are written in characters of their own. -/
structure IsPlain (declaration : Declaration) : Prop where
  identifier : isIdentifier declaration.identifier = true
  types : ∀ identifier fields, declaration = .interface identifier fields → ∀ field ∈ fields, field.2.1.IsPlain

variable {declaration : Declaration} {found : List Declaration} {closed : List DeclarationReading}

/-- The lines of a text that opens, holds a body and closes. -/
theorem toList_text_of_body {text keyword identifier middle : String} {body : List (List Char)}
    (htext : text = keyword ++ identifier ++ " \x7b\n" ++ middle ++ "\x7d\n")
    (hmiddle : middle.toList = body.flatMap fun line => line ++ ['\n']) :
    text.toList = (openingText keyword identifier :: (body ++ [['\x7d']])).flatMap fun line => line ++ ['\n'] := by
  have hopening : " \x7b\n".toList = [' ', '\x7b', '\n'] := rfl
  have hclosing : "\x7d\n".toList = ['\x7d', '\n'] := rfl
  rw [htext, String.toList_append, String.toList_append, String.toList_append, String.toList_append, hopening,
    hclosing, hmiddle, openingText]
  simp

theorem toList_text (declaration : Declaration) :
    declaration.text.toList = declaration.lines.flatMap fun line => line ++ ['\n'] := by
  cases declaration with
  | interface identifier fields =>
      apply toList_text_of_body rfl
      rw [String.toList_join, List.flatMap_map, body, List.flatMap_map]
      simp only [toList_fieldLine]
  | enumeration identifier members =>
      apply toList_text_of_body rfl
      rw [String.toList_join, List.flatMap_map, body, List.flatMap_map]
      simp only [toList_memberLine]

theorem lineFeed_notMem_keyword (declaration : Declaration) : '\n' ∉ declaration.keyword.toList := by
  cases declaration <;> simp only [keyword] <;> decide

theorem IsPlain.lineFeed_notMem (h : declaration.IsPlain) : ∀ line ∈ declaration.lines, '\n' ∉ line := by
  intro line hline
  rw [lines, List.mem_cons, List.mem_append, List.mem_singleton] at hline
  rcases hline with rfl | hbody | rfl
  · exact lineFeed_notMem_openingText declaration.lineFeed_notMem_keyword h.identifier
  · cases declaration with
    | interface identifier fields =>
        obtain ⟨field, hfield, rfl⟩ := List.mem_map.mp hbody
        exact lineFeed_notMem_fieldText field.1 (h.types identifier fields rfl field hfield) field.2.2
    | enumeration identifier members =>
        obtain ⟨member, -, rfl⟩ := List.mem_map.mp hbody
        exact lineFeed_notMem_memberText member
  · decide

/-! ### One declaration -/

theorem readHeader_interface {identifier : String} (h : isIdentifier identifier = true) :
    readHeader (openingText "export interface " identifier) = some (.interface identifier []) := by
  rw [readHeader, readOpening_openingText _ h]

theorem readHeader_enumeration {identifier : String} (h : isIdentifier identifier = true) :
    readHeader (openingText "export enum " identifier) = some (.enumeration identifier []) := by
  have hother : readOpening "export interface " (openingText "export enum " identifier) = none := rfl
  rw [readHeader, hother, readOpening_openingText _ h]
  rfl

/-- The lines of the fields are read one after the other. -/
theorem foldlM_fields (identifier : String) (read : List FieldReading) {fields : List (String × TypeExpr × Bool)}
    (h : ∀ field ∈ fields, field.2.1.IsPlain) :
    (fields.map fun field => fieldText field.1 field.2.1 field.2.2).foldlM DeclarationReading.readLine
        (.interface identifier read) =
      some (.interface identifier (read ++ fields.map fun field => ⟨field.1, field.2.1.text, field.2.2⟩)) := by
  induction fields generalizing read with
  | nil => rw [List.map_nil, List.map_nil, List.append_nil]; rfl
  | cons field fields ih =>
      rw [List.forall_mem_cons] at h
      rw [List.map_cons, List.foldlM_cons, DeclarationReading.readLine, readField_fieldText field.1 h.1]
      rw [List.map_cons, List.append_cons]
      exact ih _ h.2

theorem foldlM_members (identifier : String) (read members : List Member) :
    (members.map memberText).foldlM DeclarationReading.readLine (.enumeration identifier read) =
      some (.enumeration identifier (read ++ members)) := by
  induction members generalizing read with
  | nil => rw [List.map_nil, List.append_nil]; rfl
  | cons member members ih =>
      rw [List.map_cons, List.foldlM_cons, DeclarationReading.readLine, readMember_memberText]
      rw [List.append_cons]
      exact ih _

/-- While a declaration is open, lines other than its last one are read into it. -/
theorem foldlM_step {lines : List (List Char)} {opened read : DeclarationReading}
    (hlines : ∀ line ∈ lines, line ≠ ['\x7d']) (h : lines.foldlM DeclarationReading.readLine opened = some read) :
    lines.foldlM ModelReader.step ⟨closed, some opened⟩ = some ⟨closed, some read⟩ := by
  induction lines generalizing opened with
  | nil =>
      cases h
      rfl
  | cons line lines ih =>
      rw [List.forall_mem_cons] at hlines
      rw [List.foldlM_cons] at h ⊢
      obtain ⟨next, hnext, hrest⟩ := Option.bind_eq_some_iff.mp h
      have hstep : ModelReader.step ⟨closed, some opened⟩ line = some ⟨closed, some next⟩ := by
        simp only [ModelReader.step, if_neg hlines.1, hnext, Option.map_some]
      rw [hstep]
      exact ih hlines.2 hrest

/-- A line of a field or member is indented, so it is not taken for the end of its declaration. -/
theorem body_ne_closing (declaration : Declaration) : ∀ line ∈ declaration.body, line ≠ ['\x7d'] := by
  rintro line hline rfl
  cases declaration with
  | interface identifier fields =>
      obtain ⟨field, -, heq⟩ := List.mem_map.mp hline
      cases (List.cons.inj heq).1
  | enumeration identifier members =>
      obtain ⟨member, -, heq⟩ := List.mem_map.mp hline
      cases (List.cons.inj heq).1

theorem openingText_ne_nil (declaration : Declaration) (identifier : String) :
    openingText declaration.keyword identifier ≠ [] := by
  rw [openingText]
  simp

/-- A declaration takes the reader from one place between declarations to the next. -/
theorem foldlM_lines (h : declaration.IsPlain) :
    declaration.lines.foldlM ModelReader.step ⟨closed, none⟩ = some ⟨closed ++ [declaration.reading], none⟩ := by
  have hopened : ∃ opened, readHeader (openingText declaration.keyword declaration.identifier) = some opened ∧
      declaration.body.foldlM DeclarationReading.readLine opened = some declaration.reading := by
    cases declaration with
    | interface identifier fields =>
        exact ⟨_, readHeader_interface h.identifier, foldlM_fields identifier [] (h.types identifier fields rfl)⟩
    | enumeration identifier members =>
        exact ⟨_, readHeader_enumeration h.identifier, foldlM_members identifier [] members⟩
  obtain ⟨opened, hheader, hbody⟩ := hopened
  have hfirst : ModelReader.step ⟨closed, none⟩ (openingText declaration.keyword declaration.identifier) =
      some ⟨closed, some opened⟩ := by
    simp only [ModelReader.step, if_neg (openingText_ne_nil declaration declaration.identifier), hheader,
      Option.map_some]
  have hlast : ModelReader.step ⟨closed, some declaration.reading⟩ ['\x7d'] =
      some ⟨closed ++ [declaration.reading], none⟩ := by
    simp only [ModelReader.step, if_pos]
  calc declaration.lines.foldlM ModelReader.step ⟨closed, none⟩
      = (declaration.body ++ [['\x7d']]).foldlM ModelReader.step ⟨closed, some opened⟩ := by
        rw [lines, List.foldlM_cons, hfirst]
        rfl
    _ = [['\x7d']].foldlM ModelReader.step ⟨closed, some declaration.reading⟩ := by
        rw [List.foldlM_append, foldlM_step declaration.body_ne_closing hbody]
        rfl
    _ = some ⟨closed ++ [declaration.reading], none⟩ := by
        rw [List.foldlM_cons, hlast]
        rfl

/-! ### The whole file -/

/-- Declarations are cut into their lines, with an empty line behind each of them. -/
theorem pieces_texts (h : ∀ declaration ∈ found, declaration.IsPlain) (hne : found ≠ []) :
    pieces (· = '\n') (List.intercalate ['\n'] (found.map fun declaration => declaration.text.toList)) =
      found.flatMap fun declaration => declaration.lines ++ [[]] := by
  induction found with
  | nil => exact absurd rfl hne
  | cons declaration found ih =>
      rw [List.forall_mem_cons] at h
      have hlines := h.1.lineFeed_notMem
      cases found with
      | nil =>
          have hpieces := pieces_lines hlines []
          rw [List.append_nil] at hpieces
          rw [List.map_singleton, List.intercalate_singleton, declaration.toList_text, hpieces,
            List.flatMap_singleton]
          rfl
      | cons next found =>
          have hrest := ih h.2 (List.cons_ne_nil next found)
          rw [List.map_cons] at hrest
          rw [List.map_cons, List.map_cons, List.intercalate_cons_cons, List.append_assoc, declaration.toList_text,
            pieces_lines hlines, List.singleton_append, pieces, if_pos (decide_eq_true rfl), hrest]
          simp

theorem toList_declarationsText (hne : found ≠ []) : (declarationsText found).toList =
    List.intercalate ['\n'] (found.map fun declaration => declaration.text.toList) := by
  cases found with
  | nil => exact absurd rfl hne
  | cons declaration found =>
      rw [declarationsText, String.toList_intercalate, List.map_map]
      · rfl
      · exact List.cons_ne_nil _ _

/-- A file that declares something is told from the empty export by its first line. -/
theorem declarationsText_eq_nil_iff (h : ∀ declaration ∈ found, declaration.IsPlain) :
    declarationsText found = declarationsText [] ↔ found = [] := by
  constructor
  · intro htext
    cases found with
    | nil => rfl
    | cons declaration found =>
        have hempty : pieces (· = '\n') (declarationsText []).toList = ["export \x7b\x7d;".toList, []] := by
          decide +kernel
        have hpieces := congrArg (fun text => pieces (· = '\n') text.toList) htext
        rw [toList_declarationsText (List.cons_ne_nil _ _), pieces_texts h (List.cons_ne_nil _ _), hempty,
          List.flatMap_cons, lines, List.cons_append, List.cons_append] at hpieces
        have hfirst : openingText declaration.keyword declaration.identifier = "export \x7b\x7d;".toList :=
          (List.cons.inj hpieces).1
        have hlong : 8 ≤ declaration.keyword.toList.length := by
          cases declaration <;> simp only [keyword] <;> decide
        have hword : declaration.keyword.toList.take 8 ≠ "export \x7b\x7d;".toList.take 8 := by
          cases declaration <;> simp only [keyword] <;> decide
        apply absurd _ hword
        rw [← hfirst, openingText, List.take_append_of_le_length hlong]
  · rintro rfl
    rfl

/-- The reader goes through a list of declarations and has closed just these. -/
theorem foldlM_flatMap_lines (h : ∀ declaration ∈ found, declaration.IsPlain) (closed : List DeclarationReading) :
    (found.flatMap fun declaration => declaration.lines ++ [[]]).foldlM ModelReader.step ⟨closed, none⟩ =
      some ⟨closed ++ found.map reading, none⟩ := by
  induction found generalizing closed with
  | nil =>
      rw [List.map_nil, List.append_nil]
      rfl
  | cons declaration found ih =>
      rw [List.forall_mem_cons] at h
      have hblank : (declaration.lines ++ [[]]).foldlM ModelReader.step ⟨closed, none⟩ =
          some ⟨closed ++ [declaration.reading], none⟩ := by
        rw [List.foldlM_append, foldlM_lines h.1]
        rfl
      have hclosed := List.append_cons closed declaration.reading (found.map reading)
      rw [List.flatMap_cons, List.foldlM_append, hblank, List.map_cons, hclosed]
      exact ih h.2 (closed ++ [declaration.reading])

theorem readModel_declarationsText (h : ∀ declaration ∈ found, declaration.IsPlain) :
    readModel (declarationsText found) = some (found.map reading) := by
  rw [readModel]
  split_ifs with htext
  · rw [(declarationsText_eq_nil_iff h).mp htext]
    rfl
  · have hne : found ≠ [] := by
      rintro rfl
      exact htext rfl
    rw [toList_declarationsText hne, pieces_texts h hne, foldlM_flatMap_lines h]
    rfl

end Declaration

/-! ### What the file tells -/

/-- A declaration, as it was read, tells a field: its name, the text of its type and whether it may be null. -/
def TellsField (types : TypeMap) (names : TypeNames) (field : Field) (reading : FieldReading) : Prop :=
  reading.name = field.name ∧ reading.isNullable = field.isNullable ∧
    ∃ type, typeExpr types names field.typeId = .ok type ∧ reading.type = type.text

/-- A declaration, as it was read, tells a type: the identifier that the type goes by, and its fields or members in
their order. -/
inductive Tells (types : TypeMap) (names : TypeNames) : ResolvedType → DeclarationReading → Prop where
  | interface {id name : String} {fields : List Field} {readings : List FieldReading}
      (hfields : List.Forall₂ (TellsField types names) fields readings) :
      Tells types names ⟨id, .structured name fields⟩ (.interface (names.identifier id name) readings)
  | enumeration {id name : String} {members : List Member} :
      Tells types names ⟨id, .enumeration name members⟩ (.enumeration (names.identifier id name) members)

variable {types : TypeMap} {names : TypeNames} {resolved : List ResolvedType} {found : List Declaration}

theorem forall₂_declarations (h : declarations types names resolved = .ok found) :
    List.Forall₂ (fun declared declaration => declare? types names declared = .ok (some declaration))
      (resolved.filter fun declared => declared.shape.declaredName?.isSome) found := by
  obtain ⟨results, hresults, rfl⟩ := Outcome.map_eq_ok_iff.mp h
  clear h
  induction Outcome.mapM_eq_ok_iff.mp hresults with
  | nil => exact .nil
  | @cons declared declaration? resolved results hhead htail ih =>
      have hrest := ih (Outcome.mapM_eq_ok_iff.mpr htail)
      have hidentifier := congrArg Option.isSome (declare?_identifier hhead)
      rw [Option.isSome_map, Option.isSome_map] at hidentifier
      cases declaration? with
      | none =>
          rw [List.filter_cons_of_neg (by simp [← hidentifier])]
          exact hrest
      | some declaration =>
          rw [List.filter_cons_of_pos (by simp [← hidentifier])]
          exact .cons hhead hrest

theorem isPlain_of_declare? (hnames : ∀ id name, isIdentifier (names.identifier id name) = true)
    {declared : ResolvedType} {declaration : Declaration}
    (h : declare? types names declared = .ok (some declaration)) : declaration.IsPlain := by
  constructor
  · have hidentifier := declare?_identifier h
    obtain ⟨name, -, hname⟩ := Option.map_eq_some_iff.mp hidentifier.symm
    rw [← hname]
    exact hnames declared.id name
  · rintro identifier written rfl field hfield
    obtain ⟨-, fields, -, -, hfields⟩ := declare?_interface h
    obtain ⟨source, -, hsource⟩ := exists_left_of_forall₂ hfields hfield
    obtain ⟨type, htype, rfl⟩ := Outcome.map_eq_ok_iff.mp hsource
    exact (written_of_typeExpr htype).isPlain hnames

theorem isPlain_of_declarations {listed : List ResolvedType} {reserved : List String}
    (h : declarations types (.assign listed reserved) resolved = .ok found) :
    ∀ declaration ∈ found, declaration.IsPlain := by
  intro declaration hmem
  obtain ⟨declared, -, hdeclare⟩ := exists_left_of_forall₂ (forall₂_declarations h) hmem
  exact isPlain_of_declare? (fun id name => (TypeNames.isIdentifier_identifier id name).1) hdeclare

theorem tells_of_declare? {declared : ResolvedType} {declaration : Declaration}
    (h : declare? types names declared = .ok (some declaration)) : Tells types names declared declaration.reading := by
  obtain ⟨id, shape⟩ := declared
  cases shape with
  | structured name fields =>
      obtain ⟨written, hwritten, heq⟩ := Outcome.map_eq_ok_iff.mp h
      cases heq
      apply Tells.interface
      rw [List.forall₂_map_right_iff]
      refine (Outcome.mapM_eq_ok_iff.mp hwritten).imp ?_
      intro field entry hentry
      obtain ⟨type, htype, rfl⟩ := Outcome.map_eq_ok_iff.mp hentry
      exact ⟨rfl, rfl, type, htype, rfl⟩
  | enumeration name members =>
      cases h
      exact .enumeration
  | _ => cases h

/-- A model file tells its reader the declared types of the list, in the order of the list, and nothing else: each
under the identifier that it was given, with just its fields or members, whatever characters their names and values
hold. -/
theorem model_file_tells_declared_types {listed : List ResolvedType} {reserved : List String}
    (h : declarations types (.assign listed reserved) resolved = .ok found) :
    ∃ read, readModel (declarationsText found) = some read ∧
      List.Forall₂ (Tells types (.assign listed reserved))
        (resolved.filter fun declared => declared.shape.declaredName?.isSome) read ∧
      (declarationsText found = "export \x7b\x7d;\n" ↔
        ∀ declared ∈ resolved, declared.shape.declaredName? = none) ∧
      ∀ declared ∈ listed, ∀ name, declared.shape.declaredName? = some name →
        (TypeNames.assign listed reserved).get? declared.id =
          some ((TypeNames.assign listed reserved).identifier declared.id name) := by
  have hdeclared := forall₂_declarations h
  have hplain := isPlain_of_declarations h
  refine ⟨found.map Declaration.reading, Declaration.readModel_declarationsText hplain, ?_, ?_, ?_⟩
  · rw [List.forall₂_map_right_iff]
    exact hdeclared.imp fun _ _ => tells_of_declare?
  · have hempty : found = [] ↔ resolved.filter (fun declared => declared.shape.declaredName?.isSome) = [] := by
      rw [← List.length_eq_zero_iff, ← List.length_eq_zero_iff, hdeclared.length_eq]
    rw [← declarationsText, Declaration.declarationsText_eq_nil_iff hplain, hempty, List.filter_eq_nil_iff]
    simp
  · intro declared hmem name hname
    exact identifier_assign reserved hmem hname

/-- Two types of one name, with names and values that look like the ends of fields, members and declarations. -/
def oddTypes : TypeMap where
  entries := [
    ("App.Odd", .structured "Odd \x7b\n\x7d" [⟨"a\": string | null;\n\x7d", "Texts", true⟩, ⟨"kind", "Kind", false⟩]),
    ("Kind", .enumeration "Odd \x7b\n\x7d" [⟨"b\" = 1,\n\x7d", .text "\",\n\x7d\\"⟩, ⟨"Two", .integer (-2)⟩]),
    ("Text", .primitive .text), ("Texts", .array "Text")]
  distinct := by decide

def oddResolved : List ResolvedType := oddTypes.entries.map fun entry => ⟨entry.1, entry.2⟩

theorem odd_file_tells_declared_types : ∃ found read,
    declarations oddTypes (.assign oddResolved ["request"]) oddResolved = .ok found ∧
      readModel (declarationsText found) = some read ∧
      List.Forall₂ (Tells oddTypes (.assign oddResolved ["request"]))
        (oddResolved.filter fun declared => declared.shape.declaredName?.isSome) read ∧
      declarationsText found ≠ "export \x7b\x7d;\n" := by
  have hids : oddResolved.flatMap ResolvedType.fieldTypeIds = ["Texts", "Kind"] := rfl
  have hkind : failure? (typeExpr oddTypes (.assign oddResolved ["request"]) "Kind") = none := by
    rw [typeExpr, writeType, if_neg (by simp)]
    rfl
  have htexts : failure? (typeExpr oddTypes (.assign oddResolved ["request"]) "Texts") = none := by
    have htext : writeType oddTypes (.assign oddResolved ["request"]) ["Texts"] "Text" = .ok (.primitive "string") := by
      rw [writeType, if_neg (by decide)]
      rfl
    rw [typeExpr, writeType, if_neg (by simp)]
    change failure? ((writeType oddTypes _ ["Texts"] "Text").map TypeExpr.list) = none
    rw [htext]
    rfl
  have hfails : failure? (declarations oddTypes (.assign oddResolved ["request"]) oddResolved) = none := by
    rw [failure?_declarations, hids, List.findSome?_cons, htexts, List.findSome?_cons, hkind]
    rfl
  obtain ⟨found, hfound⟩ := Outcome.failure?_eq_none_iff.mp hfails
  obtain ⟨read, hread, htells, hempty, -⟩ := model_file_tells_declared_types hfound
  refine ⟨found, read, hfound, hread, htells, fun htext => ?_⟩
  have hnone := hempty.mp htext _ List.mem_cons_self
  cases hnone

end ApiProxy.Script
