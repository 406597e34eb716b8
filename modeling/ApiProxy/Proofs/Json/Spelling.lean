import ApiProxy.Proofs.Json.Tokens

/-! How a document may be written. Blanks stand freely between tokens, in front of the document and behind it; what
remains is the tree. A text that spells a tree is read as that tree, with two units of allowance for each character. -/

namespace ApiProxy.Json

/-- What a stretch of a text stands for: a value, or what is left of an array or an object up to its closing bracket. -/
inductive Part where
  | value (tree : Tree)
  | items (isFirst : Bool) (items : List Tree)
  | members (isFirst : Bool) (members : List (Key × Tree))

def Blanks (text : List Char) : Prop := ∀ c ∈ text, isBlank c = true

/-- What stands in front of an item or a member. -/
def separator (isFirst : Bool) : List Char := if isFirst then [] else [',']

/-- The text is a spelling of the part. -/
inductive Spells : List Char → Part → Prop where
  | scalar {token : List Char} {tree : Tree} (h : scalar token = (tree, some [])) : Spells token (.value tree)
  | array {text : List Char} {items : List Tree} (h : Spells text (.items true items)) :
      Spells ('[' :: text) (.value (.array items .closed))
  | object {text : List Char} {members : List (Key × Tree)} (h : Spells text (.members true members)) :
      Spells ('\x7b' :: text) (.value (.object members .closed))
  | endOfItems (isFirst : Bool) {blanks : List Char} (hblanks : Blanks blanks) :
      Spells (blanks ++ [']']) (.items isFirst [])
  | item {isFirst : Bool} {before after token rest : List Char} {item : Tree} {items : List Tree}
      (hbefore : Blanks before) (hafter : Blanks after) (hitem : Spells token (.value item))
      (hitems : Spells rest (.items false items)) :
      Spells (before ++ (separator isFirst ++ (after ++ (token ++ rest)))) (.items isFirst (item :: items))
  | endOfMembers (isFirst : Bool) {blanks : List Char} (hblanks : Blanks blanks) :
      Spells (blanks ++ ['\x7d']) (.members isFirst [])
  | member {isFirst : Bool} {before after quotation behindKey behindColon token rest : List Char}
      {key : Option String} {value : Tree} {members : List (Key × Tree)} (hbefore : Blanks before)
      (hafter : Blanks after) (hkey : readQuotation {} quotation = .closed key []) (hbehindKey : Blanks behindKey)
      (hbehindColon : Blanks behindColon) (hvalue : Spells token (.value value))
      (hmembers : Spells rest (.members false members)) :
      Spells (before ++ (separator isFirst ++ (after ++ '"' :: (quotation ++ (behindKey ++
        ':' :: (behindColon ++ (token ++ rest))))))) (.members isFirst ((.text key, value) :: members))

/-- The whole text is a spelling of the tree. -/
def SpellsDocument (text : List Char) (tree : Tree) : Prop :=
  ∃ before token after, text = before ++ (token ++ after) ∧ Blanks before ∧ Blanks after ∧ Spells token (.value tree)

/-! ### Blanks -/

theorem skipBlanks_cons {c : Char} (h : isBlank c = false) (text : List Char) : skipBlanks (c :: text) = c :: text :=
  List.dropWhile_cons_of_neg (ne_true_of_eq_false h)

theorem skipBlanks_append {blanks : List Char} (h : Blanks blanks) (text : List Char) :
    skipBlanks (blanks ++ text) = skipBlanks text := List.dropWhile_append_of_pos h

theorem skipBlanks_eq_nil {blanks : List Char} (h : Blanks blanks) : skipBlanks blanks = [] :=
  List.dropWhile_eq_nil_iff.mpr h

theorem readValue_append {blanks : List Char} (h : Blanks blanks) (allowance : Nat) (text : List Char) :
    readValue allowance (blanks ++ text) = readValue allowance text := by
  cases allowance with
  | zero => rfl
  | succ allowance => rw [readValue, readValue, skipBlanks_append h]

theorem exists_blanks (text : List Char) : ∃ blanks, Blanks blanks ∧ text = blanks ++ skipBlanks text :=
  ⟨text.takeWhile isBlank, fun _ hc => List.mem_takeWhile_imp hc, List.takeWhile_append_dropWhile.symm⟩

theorem endsNumber_cons {c : Char} (hc : c.isDigit = false ∧ c ∉ ['.', 'e', 'E']) (text : List Char) :
    EndsNumber (c :: text) := by
  intro d hd
  cases hd
  exact hc

theorem endsNumber_append {blanks : List Char} (h : Blanks blanks) {text : List Char} (htext : EndsNumber text) :
    EndsNumber (blanks ++ text) := by
  cases blanks with
  | nil => exact htext
  | cons c blanks =>
      have hc : c ∈ [' ', '\t', '\n', '\r'] := by simpa [isBlank, or_assoc] using h c List.mem_cons_self
      fin_cases hc <;> exact endsNumber_cons (by decide) (blanks ++ text)

/-! ### What is spelled is read -/

theorem scalar_eq_brokenBy {c : Char} (h : c ∈ [' ', '\t', '\n', '\r', '[', ']', '\x7b']) (text : List Char) :
    scalar (c :: text) = brokenBy .nothing .malformed := by
  fin_cases h <;> rfl

/-- A value without brackets starts with a character that is no blank and no bracket. -/
theorem exists_cons_of_scalar {token : List Char} {tree : Tree} (h : scalar token = (tree, some [])) :
    ∃ c later, token = c :: later ∧ isBlank c = false ∧ c ∉ ['[', ']', '\x7b'] := by
  cases token with
  | nil => cases h
  | cons c later =>
      have hc : c ∉ [' ', '\t', '\n', '\r', '[', ']', '\x7b'] := by
        intro hmem
        rw [scalar_eq_brokenBy hmem] at h
        cases h
      refine ⟨c, later, rfl, ?_, ?_⟩
      · simp_all [isBlank]
      · simp_all

theorem Spells.exists_cons {token : List Char} {tree : Tree} (h : Spells token (.value tree)) :
    ∃ c later, token = c :: later ∧ isBlank c = false ∧ c ≠ ']' := by
  cases h with
  | scalar h =>
      obtain ⟨c, later, htoken, hblank, hc⟩ := exists_cons_of_scalar h
      exact ⟨c, later, htoken, hblank, by rintro rfl; exact hc (by decide)⟩
  | array => exact ⟨'[', _, rfl, by decide, by decide⟩
  | object => exact ⟨'\x7b', _, rfl, by decide, by decide⟩

theorem Spells.endsNumber_items {text : List Char} {items : List Tree} (h : Spells text (.items false items))
    (rest : List Char) : EndsNumber (text ++ rest) := by
  cases h with
  | endOfItems _ hblanks =>
      rw [List.append_assoc]
      exact endsNumber_append hblanks (endsNumber_cons (by decide) rest)
  | item hbefore =>
      rw [List.append_assoc]
      exact endsNumber_append hbefore (endsNumber_cons (by decide) _)

theorem Spells.endsNumber_members {text : List Char} {members : List (Key × Tree)}
    (h : Spells text (.members false members)) (rest : List Char) : EndsNumber (text ++ rest) := by
  cases h with
  | endOfMembers _ hblanks =>
      rw [List.append_assoc]
      exact endsNumber_append hblanks (endsNumber_cons (by decide) rest)
  | member hbefore =>
      rw [List.append_assoc]
      exact endsNumber_append hbefore (endsNumber_cons (by decide) _)

/-- Reading takes the text off whatever may follow it and gives the part. -/
def Part.ReadFrom (text : List Char) : Part → Prop
  | .value tree => ∀ allowance rest, 2 * text.length ≤ allowance → EndsNumber rest →
      readValue allowance (text ++ rest) = (tree, some rest)
  | .items isFirst listed => ∀ allowance rest, 2 * text.length < allowance →
      readItems allowance isFirst (text ++ rest) = (listed, .closed, some rest)
  | .members isFirst listed => ∀ allowance rest, 2 * text.length < allowance →
      readMembers allowance isFirst (text ++ rest) = (listed, .closed, some rest)

theorem readFrom_scalar {token : List Char} {tree : Tree} (h : scalar token = (tree, some [])) :
    (Part.value tree).ReadFrom token := by
  intro allowance rest hallowance hrest
  obtain ⟨c, later, rfl, hblank, hc⟩ := exists_cons_of_scalar h
  obtain ⟨token, htoken, hread⟩ := scalar_takesToken h
  rw [List.append_nil] at htoken
  rw [List.length_cons] at hallowance
  obtain ⟨allowance, rfl⟩ : ∃ fewer, allowance = fewer + 1 := ⟨allowance - 1, by omega⟩
  rw [List.cons_append, readValue, skipBlanks_cons hblank]
  split
  next heq => cases heq; exact absurd (by decide) hc
  next heq => cases heq; exact absurd (by decide) hc
  next => rw [← List.cons_append, htoken, hread rest hrest]

theorem readFrom_item {isFirst : Bool} {before after token rest : List Char} {item : Tree} {items : List Tree}
    (hbefore : Blanks before) (hafter : Blanks after) (hitem : Spells token (.value item))
    (hitems : Spells rest (.items false items)) (htoken : (Part.value item).ReadFrom token)
    (hrest : (Part.items false items).ReadFrom rest) :
    (Part.items isFirst (item :: items)).ReadFrom (before ++ (separator isFirst ++ (after ++ (token ++ rest)))) := by
  intro allowance other hallowance
  obtain ⟨c, later, hcons, hblank, hc⟩ := hitem.exists_cons
  have hlength : 0 < token.length := hcons ▸ Nat.succ_pos later.length
  simp only [List.length_append] at hallowance
  obtain ⟨allowance, rfl⟩ : ∃ fewer, allowance = fewer + 1 := ⟨allowance - 1, by omega⟩
  have hvalue := htoken allowance (rest ++ other) (by omega) (hitems.endsNumber_items other)
  have hlater := hrest allowance other (by omega)
  simp only [List.append_assoc]
  rw [readItems, skipBlanks_append hbefore]
  cases isFirst with
  | true =>
      rw [hcons, List.cons_append] at hvalue
      rw [separator, if_pos rfl, List.nil_append, skipBlanks_append hafter, hcons, List.cons_append,
        skipBlanks_cons hblank]
      simp [hc, hvalue, hlater]
  | false =>
      have hcomma (text : List Char) : skipBlanks (',' :: text) = ',' :: text := skipBlanks_cons (by decide) text
      simp [separator, hcomma, readValue_append hafter, hvalue, hlater]

theorem readFrom_member {isFirst : Bool} {before after quotation behindKey behindColon token rest : List Char}
    {key : Option String} {value : Tree} {members : List (Key × Tree)} (hbefore : Blanks before)
    (hafter : Blanks after) (hkey : readQuotation {} quotation = .closed key []) (hbehindKey : Blanks behindKey)
    (hbehindColon : Blanks behindColon) (hmembers : Spells rest (.members false members))
    (htoken : (Part.value value).ReadFrom token) (hrest : (Part.members false members).ReadFrom rest) :
    (Part.members isFirst ((.text key, value) :: members)).ReadFrom (before ++ (separator isFirst ++ (after ++
      '"' :: (quotation ++ (behindKey ++ ':' :: (behindColon ++ (token ++ rest))))))) := by
  intro allowance other hallowance
  simp only [List.length_append, List.length_cons] at hallowance
  obtain ⟨allowance, rfl⟩ : ∃ fewer, allowance = fewer + 1 := ⟨allowance - 1, by omega⟩
  have hvalue := htoken allowance (rest ++ other) (by omega) (hmembers.endsNumber_members other)
  have hlater := hrest allowance other (by omega)
  obtain ⟨body, hbody, hquotation⟩ := readQuotation_closed hkey
  rw [List.append_nil] at hbody
  subst hbody
  have hquote (text : List Char) : skipBlanks ('"' :: text) = '"' :: text := skipBlanks_cons (by decide) text
  have hcolon (text : List Char) : skipBlanks (':' :: text) = ':' :: text := skipBlanks_cons (by decide) text
  have hcomma (text : List Char) : skipBlanks (',' :: text) = ',' :: text := skipBlanks_cons (by decide) text
  simp only [List.append_assoc, List.cons_append]
  rw [readMembers, skipBlanks_append hbefore]
  cases isFirst <;>
    simp [separator, hcomma, hquote, hcolon, skipBlanks_append hafter, skipBlanks_append hbehindKey,
      readValue_append hbehindColon, hquotation, hvalue, hlater]

theorem Spells.readFrom {text : List Char} {part : Part} (h : Spells text part) : part.ReadFrom text := by
  induction h with
  | scalar h => exact readFrom_scalar h
  | array _ ih =>
      intro allowance rest hallowance _
      rw [List.length_cons] at hallowance
      obtain ⟨allowance, rfl⟩ : ∃ fewer, allowance = fewer + 1 := ⟨allowance - 1, by omega⟩
      rw [List.cons_append, readValue, skipBlanks_cons (by decide)]
      simp [ih allowance rest (by omega)]
  | object _ ih =>
      intro allowance rest hallowance _
      rw [List.length_cons] at hallowance
      obtain ⟨allowance, rfl⟩ : ∃ fewer, allowance = fewer + 1 := ⟨allowance - 1, by omega⟩
      rw [List.cons_append, readValue, skipBlanks_cons (by decide)]
      simp [ih allowance rest (by omega)]
  | endOfItems isFirst hblanks =>
      intro allowance rest hallowance
      obtain ⟨allowance, rfl⟩ : ∃ fewer, allowance = fewer + 1 := ⟨allowance - 1, by omega⟩
      rw [List.append_assoc, readItems, skipBlanks_append hblanks]
      rfl
  | item hbefore hafter hitem hitems htoken hrest => exact readFrom_item hbefore hafter hitem hitems htoken hrest
  | endOfMembers isFirst hblanks =>
      intro allowance rest hallowance
      obtain ⟨allowance, rfl⟩ : ∃ fewer, allowance = fewer + 1 := ⟨allowance - 1, by omega⟩
      rw [List.append_assoc, readMembers, skipBlanks_append hblanks]
      rfl
  | member hbefore hafter hkey hbehindKey hbehindColon _ hmembers htoken hrest =>
      exact readFrom_member hbefore hafter hkey hbehindKey hbehindColon hmembers htoken hrest

theorem SpellsDocument.ofText_eq {text : List Char} {tree : Tree} (h : SpellsDocument text tree) :
    Document.ofText text = ⟨tree, true⟩ := by
  obtain ⟨before, token, after, rfl, hbefore, hafter, htoken⟩ := h
  have hends : EndsNumber after := by
    have hempty : EndsNumber [] := fun c hc => by cases hc
    exact List.append_nil after ▸ endsNumber_append hafter hempty
  have hread := htoken.readFrom (2 * (before ++ (token ++ after)).length + 2) after
    (by simp only [List.length_append]; omega) hends
  rw [Document.ofText, readValue_append hbefore, hread]
  simp [skipBlanks_eq_nil hafter]

end ApiProxy.Json
