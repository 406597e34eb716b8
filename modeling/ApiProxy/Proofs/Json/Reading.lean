import ApiProxy.Proofs.Json.Spelling

/-! Every text that is read to its end is a spelling of the tree it is read as. Where no text is left to go on with,
reading stopped inside the value, and no decoder takes such a value over. -/

namespace ApiProxy.Json

/-! ### One step -/

/-- A value is read as what stands behind an opening bracket, or as a token. -/
theorem readValue_cases {allowance : Nat} {text : List Char} {tree : Tree} {rest : Option (List Char)}
    (h : readValue (allowance + 1) text = (tree, rest)) :
    ∃ before behind, Blanks before ∧
      ((∃ items ending, text = before ++ '[' :: behind ∧ readItems allowance true behind = (items, ending, rest) ∧
          tree = .array items ending) ∨
        (∃ members ending, text = before ++ '\x7b' :: behind ∧
          readMembers allowance true behind = (members, ending, rest) ∧ tree = .object members ending) ∨
        text = before ++ behind ∧ scalar behind = (tree, rest)) := by
  obtain ⟨before, hbefore, htext⟩ := exists_blanks text
  rw [readValue] at h
  split at h
  next behind heq =>
    cases h
    exact ⟨before, behind, hbefore, Or.inl ⟨_, _, heq ▸ htext, rfl, rfl⟩⟩
  next behind heq =>
    cases h
    exact ⟨before, behind, hbefore, Or.inr (Or.inl ⟨_, _, heq ▸ htext, rfl, rfl⟩)⟩
  next => exact ⟨before, _, hbefore, Or.inr (Or.inr ⟨htext, h⟩)⟩

/-- What stands in front of an item or a member that is not the closing bracket. -/
theorem eq_separator_append {isFirst : Bool} {c : Char} {behind : List Char} (h : (isFirst || c = ',') = true) :
    c :: behind = separator isFirst ++ (if isFirst then c :: behind else behind) := by
  cases isFirst with
  | true => rfl
  | false => rw [of_decide_eq_true h]; rfl

/-- Reading items stops, comes to the closing bracket, or takes one item and goes on. -/
theorem readItems_cases {allowance : Nat} {isFirst : Bool} {text : List Char} {items : List Tree} {ending : Ending}
    {rest : Option (List Char)} (h : readItems (allowance + 1) isFirst text = (items, ending, rest)) :
    ((∃ fault, ending = .stopped fault) ∧ rest = none) ∨
      (∃ before behind, Blanks before ∧ text = before ++ ']' :: behind ∧ items = [] ∧ ending = .closed ∧
        rest = some behind) ∨
      ∃ before value behind item others, Blanks before ∧ text = before ++ (separator isFirst ++ value) ∧
        readValue allowance value = (item, some behind) ∧ readItems allowance false behind = (others, ending, rest) ∧
          items = item :: others := by
  obtain ⟨before, hbefore, htext⟩ := exists_blanks text
  rw [readItems] at h
  split at h
  next => cases h; exact Or.inl ⟨⟨_, rfl⟩, rfl⟩
  next c behind heq =>
    rw [heq] at htext
    split at h
    next hc =>
      cases h
      exact Or.inr (Or.inl ⟨before, behind, hbefore, hc ▸ htext, rfl, rfl, rfl⟩)
    next =>
      split at h
      next hseparator =>
        split at h
        next => cases h; exact Or.inl ⟨⟨_, rfl⟩, rfl⟩
        next item remaining hitem =>
          cases h
          refine Or.inr (Or.inr ⟨before, _, remaining, item, _, hbefore, ?_, hitem, rfl, rfl⟩)
          exact htext.trans (congrArg (before ++ ·) (eq_separator_append hseparator))
      next => cases h; exact Or.inl ⟨⟨_, rfl⟩, rfl⟩

/-- Reading members stops, comes to the closing bracket, or takes one member and goes on. -/
theorem readMembers_cases {allowance : Nat} {isFirst : Bool} {text : List Char} {members : List (Key × Tree)}
    {ending : Ending} {rest : Option (List Char)}
    (h : readMembers (allowance + 1) isFirst text = (members, ending, rest)) :
    ((∃ fault, ending = .stopped fault) ∧ rest = none) ∨
      (∃ before behind, Blanks before ∧ text = before ++ '\x7d' :: behind ∧ members = [] ∧ ending = .closed ∧
        rest = some behind) ∨
      ∃ before after quotation behindKey key value behind item others, Blanks before ∧ Blanks after ∧
        Blanks behindKey ∧ text = before ++ (separator isFirst ++ (after ++ '"' :: (quotation ++ (behindKey ++
          ':' :: value)))) ∧ readQuotation {} quotation = .closed key [] ∧
          readValue allowance value = (item, some behind) ∧
            readMembers allowance false behind = (others, ending, rest) ∧ members = (.text key, item) :: others := by
  obtain ⟨before, hbefore, htext⟩ := exists_blanks text
  rw [readMembers] at h
  split at h
  next => cases h; exact Or.inl ⟨⟨_, rfl⟩, rfl⟩
  next c behind heq =>
    rw [heq] at htext
    split at h
    next hc =>
      cases h
      exact Or.inr (Or.inl ⟨before, behind, hbefore, hc ▸ htext, rfl, rfl, rfl⟩)
    next =>
      split at h
      next hseparator =>
        obtain ⟨after, hafter, hbehind⟩ := exists_blanks (if isFirst then c :: behind else behind)
        split at h
        next inner hquote =>
          split at h
          next => cases h; exact Or.inl ⟨⟨_, rfl⟩, rfl⟩
          next key behindKey hkey =>
            obtain ⟨quotation, rfl, hquotation⟩ := readQuotation_closed hkey
            have hname := hquotation []
            rw [List.append_nil] at hname
            obtain ⟨blanks, hblanks, hcolon⟩ := exists_blanks behindKey
            split at h
            next value hvalue =>
              split at h
              next => cases h; exact Or.inl ⟨⟨_, rfl⟩, rfl⟩
              next item remaining hitem =>
                cases h
                refine Or.inr (Or.inr ⟨before, after, quotation, blanks, key, value, remaining, item, _, hbefore,
                  hafter, hblanks, ?_, hname, hitem, rfl, rfl⟩)
                rw [htext, eq_separator_append hseparator, hbehind, hquote, hcolon, hvalue]
            next => cases h; exact Or.inl ⟨⟨_, rfl⟩, rfl⟩
        next => cases h; exact Or.inl ⟨⟨_, rfl⟩, rfl⟩
      next => cases h; exact Or.inl ⟨⟨_, rfl⟩, rfl⟩

/-! ### What is read is spelled -/

/-- What is read as a value with the allowance is blanks and a spelling of the value. -/
def ReadsSpelledValues (allowance : Nat) : Prop :=
  ∀ ⦃text rest tree⦄, readValue allowance text = (tree, some rest) →
    ∃ blanks token, text = blanks ++ (token ++ rest) ∧ Blanks blanks ∧ Spells token (.value tree)

def ReadsSpelledItems (allowance : Nat) : Prop :=
  ∀ ⦃isFirst text rest items ending⦄, readItems allowance isFirst text = (items, ending, some rest) →
    ending = .closed ∧ ∃ token, text = token ++ rest ∧ Spells token (.items isFirst items)

def ReadsSpelledMembers (allowance : Nat) : Prop :=
  ∀ ⦃isFirst text rest members ending⦄, readMembers allowance isFirst text = (members, ending, some rest) →
    ending = .closed ∧ ∃ token, text = token ++ rest ∧ Spells token (.members isFirst members)

section Reading

variable {allowance : Nat}

theorem readsSpelledValues_succ (hitems : ReadsSpelledItems allowance) (hmembers : ReadsSpelledMembers allowance) :
    ReadsSpelledValues (allowance + 1) := by
  intro text rest tree h
  obtain ⟨blanks, behind, hblanks, hcases⟩ := readValue_cases h
  rcases hcases with ⟨items, ending, rfl, hitem, rfl⟩ | ⟨members, ending, rfl, hmember, rfl⟩ | ⟨rfl, hscalar⟩
  · obtain ⟨rfl, token, rfl, htoken⟩ := hitems hitem
    exact ⟨blanks, '[' :: token, rfl, hblanks, .array htoken⟩
  · obtain ⟨rfl, token, rfl, htoken⟩ := hmembers hmember
    exact ⟨blanks, '\x7b' :: token, rfl, hblanks, .object htoken⟩
  · obtain ⟨token, rfl, hread⟩ := scalar_takesToken hscalar
    have hwhole := hread [] fun c hc => by cases hc
    rw [List.append_nil] at hwhole
    exact ⟨blanks, token, rfl, hblanks, .scalar hwhole⟩

theorem readsSpelledItems_succ (hvalues : ReadsSpelledValues allowance) (hitems : ReadsSpelledItems allowance) :
    ReadsSpelledItems (allowance + 1) := by
  intro isFirst text rest items ending h
  rcases readItems_cases h with ⟨-, hstopped⟩ | ⟨before, behind, hbefore, rfl, rfl, rfl, hrest⟩ |
    ⟨before, value, behind, item, others, hbefore, rfl, hitem, hlater, rfl⟩
  · cases hstopped
  · cases hrest
    exact ⟨rfl, before ++ [']'], by simp, .endOfItems isFirst hbefore⟩
  · obtain ⟨after, token, rfl, hafter, htoken⟩ := hvalues hitem
    obtain ⟨hclosed, spelled, rfl, hspelled⟩ := hitems hlater
    exact ⟨hclosed, _, by simp only [List.append_assoc], .item hbefore hafter htoken hspelled⟩

theorem readsSpelledMembers_succ (hvalues : ReadsSpelledValues allowance) (hmembers : ReadsSpelledMembers allowance) :
    ReadsSpelledMembers (allowance + 1) := by
  intro isFirst text rest members ending h
  rcases readMembers_cases h with ⟨-, hstopped⟩ | ⟨before, behind, hbefore, rfl, rfl, rfl, hrest⟩ |
    ⟨before, after, quotation, behindKey, key, value, behind, item, others, hbefore, hafter, hbehindKey, rfl, hkey,
      hitem, hlater, rfl⟩
  · cases hstopped
  · cases hrest
    exact ⟨rfl, before ++ ['\x7d'], by simp, .endOfMembers isFirst hbefore⟩
  · obtain ⟨blanks, token, rfl, hblanks, htoken⟩ := hvalues hitem
    obtain ⟨hclosed, spelled, rfl, hspelled⟩ := hmembers hlater
    refine ⟨hclosed, _, ?_, .member hbefore hafter hkey hbehindKey hblanks htoken hspelled⟩
    simp only [List.append_assoc, List.cons_append]

/-- Whatever allowance there is, what is read is spelled. -/
theorem readsSpelled (allowance : Nat) :
    ReadsSpelledValues allowance ∧ ReadsSpelledItems allowance ∧ ReadsSpelledMembers allowance := by
  induction allowance with
  | zero =>
      refine ⟨?_, ?_, ?_⟩
      · intro _ _ _ h; cases h
      · intro _ _ _ _ _ h; cases h
      · intro _ _ _ _ _ h; cases h
  | succ allowance ih =>
      obtain ⟨hvalues, hitems, hmembers⟩ := ih
      exact ⟨readsSpelledValues_succ hitems hmembers, readsSpelledItems_succ hvalues hitems,
        readsSpelledMembers_succ hvalues hmembers⟩

end Reading

/-! ### What is not read to its end -/

/-- Reading stopped inside the value. -/
def Tree.Unfinished : Tree → Prop
  | .array _ (.stopped _) | .object _ (.stopped _) | .broken _ _ _ => True
  | _ => False

/-- If there is no text behind the value, then reading stopped inside it. -/
def Reading.Stops (reading : Reading) : Prop := reading.2 = none → reading.1.Unfinished

@[simp]
theorem stops_brokenBy (opening : Opening) (fault : Fault) : (brokenBy opening fault).Stops := fun _ => trivial

@[simp]
theorem stops_brokenNumber (text : List Char) : (brokenNumber text).Stops := fun _ => trivial

@[simp]
theorem stops_broken (opening : Opening) (whenRead whenSkipped : Fault) :
    Reading.Stops (.broken opening whenRead whenSkipped, none) := fun _ => trivial

@[simp]
theorem stops_some (tree : Tree) (rest : List Char) : Reading.Stops (tree, some rest) := fun h => by cases h

theorem stops_readLiteral (value : Tree) (expected text : List Char) : (readLiteral value expected text).Stops := by
  fun_induction readLiteral value expected text <;> simp_all

theorem stops_readExponent (numeral : Numeral) (text : List Char) : (readExponent numeral text).Stops := by
  rw [readExponent.eq_def]
  dsimp only
  split <;> simp [numberTree]

theorem stops_readFraction (numeral : Numeral) (text : List Char) : (readFraction numeral text).Stops := by
  rw [readFraction]
  dsimp only
  split
  next => simp
  next => split <;> simp [stops_readExponent, numberTree]

theorem stops_readNumber (isNegative : Bool) (text : List Char) : (readNumber isNegative text).Stops := by
  rw [readNumber]
  dsimp only
  split
  next => simp
  next => simp
  next => split <;> simp [stops_readExponent, stops_readFraction, numberTree]

theorem stops_scalar (text : List Char) : (scalar text).Stops := by
  rw [scalar.eq_def]
  split
  next => exact stops_readLiteral _ _ _
  next => exact stops_readLiteral _ _ _
  next => exact stops_readLiteral _ _ _
  next => exact stops_readNumber _ _
  next => split <;> simp
  next => split <;> simp [stops_readNumber]
  next => simp

theorem readItems_stopped {allowance : Nat} {isFirst : Bool} {text : List Char} {items : List Tree} {ending : Ending}
    (h : readItems allowance isFirst text = (items, ending, none)) : ∃ fault, ending = .stopped fault := by
  induction allowance generalizing isFirst text items with
  | zero => cases h; exact ⟨_, rfl⟩
  | succ allowance ih =>
      rcases readItems_cases h with ⟨hstopped, -⟩ | ⟨_, _, _, _, _, _, hrest⟩ | ⟨_, _, _, _, _, _, _, _, hlater, _⟩
      · exact hstopped
      · cases hrest
      · exact ih hlater

theorem readMembers_stopped {allowance : Nat} {isFirst : Bool} {text : List Char} {members : List (Key × Tree)}
    {ending : Ending} (h : readMembers allowance isFirst text = (members, ending, none)) :
    ∃ fault, ending = .stopped fault := by
  induction allowance generalizing isFirst text members with
  | zero => cases h; exact ⟨_, rfl⟩
  | succ allowance ih =>
      rcases readMembers_cases h with ⟨hstopped, -⟩ | ⟨_, _, _, _, _, _, hrest⟩ |
        ⟨_, _, _, _, _, _, _, _, _, _, _, _, _, _, _, hlater, _⟩
      · exact hstopped
      · cases hrest
      · exact ih hlater

theorem stops_readValue (allowance : Nat) (text : List Char) : (readValue allowance text).Stops := by
  cases allowance with
  | zero => exact stops_brokenBy _ _
  | succ allowance =>
      cases hread : readValue (allowance + 1) text with
      | mk tree rest =>
          rintro rfl
          obtain ⟨before, behind, -, hcases⟩ := readValue_cases hread
          rcases hcases with ⟨items, ending, -, hitems, rfl⟩ | ⟨members, ending, -, hmembers, rfl⟩ | ⟨-, hscalar⟩
          · obtain ⟨fault, rfl⟩ := readItems_stopped hitems
            trivial
          · obtain ⟨fault, rfl⟩ := readMembers_stopped hmembers
            trivial
          · have hstops := stops_scalar behind
            rw [hscalar] at hstops
            exact hstops rfl

/-- A text with nothing but blanks behind its value spells its tree, unless reading stopped inside it. -/
theorem spellsDocument_of_ofText {text : List Char} {tree : Tree} (h : Document.ofText text = ⟨tree, true⟩)
    (hfinished : ¬tree.Unfinished) : SpellsDocument text tree := by
  have hstops := stops_readValue (2 * text.length + 2) text
  rw [Document.ofText] at h
  cases hread : readValue (2 * text.length + 2) text with
  | mk root rest =>
      rw [hread] at h hstops
      cases rest with
      | none =>
          cases h
          exact absurd (hstops rfl) hfinished
      | some rest =>
          obtain ⟨rfl, hcomplete⟩ := Document.mk.inj h
          obtain ⟨blanks, token, htext, hblanks, htoken⟩ := (readsSpelled _).1 hread
          have hrest : Blanks rest := List.dropWhile_eq_nil_iff.mp (List.isEmpty_iff.mp hcomplete)
          exact ⟨blanks, token, rest, htext, hblanks, hrest, htoken⟩

end ApiProxy.Json
