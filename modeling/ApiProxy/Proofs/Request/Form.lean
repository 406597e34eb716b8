import ApiProxy.Proofs.Text.Pieces
import ApiProxy.Proofs.Url.Coding

/-! Pairs of names and values in a query, as a browser writes them and a server reads them: the pairs are joined by
ampersands, a name and its value by an equals sign; spaces become plus signs, and what is neither a letter nor a
digit nor one of four signs is percent encoded. -/

namespace ApiProxy.Form

def isEncoded (c : Char) : Bool := !(c.isAlphanum || c ∈ [' ', '*', '-', '.', '_'])

def spaceAsPlus (c : Char) : Char := if c = ' ' then '+' else c

def plusAsSpace (c : Char) : Char := if c = '+' then ' ' else c

def encode (text : List Char) : List Char := (Url.percentEncode isEncoded text).map spaceAsPlus

def decode (text : List Char) : List Char := Unicode.decodeLossy (Url.percentDecode (text.map plusAsSpace))

def writeEntry (entry : String × String) : List Char := encode entry.1.toList ++ '=' :: encode entry.2.toList

def write (entries : List (String × String)) : List Char := joinPieces '&' (entries.map writeEntry)

/-- A piece without an equals sign is a name with an empty value. -/
def readEntry (piece : List Char) : String × String :=
  let (name, value?) := cutAt '=' piece
  (String.ofList (decode name), String.ofList (decode (value?.getD [])))

/-- Pieces with nothing in them are passed over. -/
def read (text : List Char) : List (String × String) :=
  ((pieces (· = '&') text).filter (· ≠ [])).map readEntry

/-! ### Names and values -/

theorem notMem_percentEncode {c : Char} (hc : c ∈ ['&', '=', '#', '?', '+']) (text : List Char) :
    c ∉ Url.percentEncode isEncoded text := by
  intro hmem
  have hkept := Url.mem_percentEncode hmem
  simp only [List.mem_cons, List.not_mem_nil, or_false] at hc
  rcases hc with rfl | rfl | rfl | rfl | rfl <;> exact absurd hkept (by decide)

/-- The signs that structure a URL do not come in an encoded text. -/
theorem notMem_encode {c : Char} (hc : c ∈ ['&', '=', '#', '?']) (text : List Char) : c ∉ encode text := by
  intro hmem
  obtain ⟨d, hd, hsame⟩ := List.mem_map.mp hmem
  rw [spaceAsPlus] at hsame
  split at hsame
  · subst hsame
    simp at hc
  · subst hsame
    exact notMem_percentEncode (List.mem_append_left ['+'] hc) text hd

theorem plusAsSpace_encode (text : List Char) :
    (encode text).map plusAsSpace = Url.percentEncode isEncoded text := by
  rw [encode, List.map_map]
  refine (List.map_congr_left fun c hc => ?_).trans (List.map_id _)
  have hplus : c ≠ '+' := by
    rintro rfl
    exact notMem_percentEncode (by decide) text hc
  by_cases hspace : c = ' '
  · subst hspace
    rfl
  · simp [spaceAsPlus, plusAsSpace, hspace, hplus]

theorem decode_encode_append (text rest : List Char) : decode (encode text ++ rest) = text ++ decode rest := by
  rw [decode, List.map_append, plusAsSpace_encode, Url.percentDecode_percentEncode (by decide),
    Unicode.decodeLossy_encode_append]
  rfl

theorem decode_nil : decode [] = [] := by
  simp [decode, Url.percentDecode, Unicode.decodeLossy, Unicode.characters]

theorem decode_encode (text : List Char) : decode (encode text) = text := by
  have happend := decode_encode_append text []
  rwa [List.append_nil, decode_nil, List.append_nil] at happend

theorem decode_of_encode_eq {text : List Char} (h : encode text = text) : decode text = text := by
  have hdecode := decode_encode text
  rwa [h] at hdecode

/-- A sign that stands for itself is read as such, and what comes before it without regard to it. -/
theorem decode_append {c : Char} (hc : c = '=' ∨ c = '?') (front back : List Char) :
    decode (front ++ c :: back) = decode front ++ c :: decode back := by
  obtain ⟨byte, hbyte, hcode⟩ : ∃ byte : UInt8, byte.toNat < 0x80 ∧ String.utf8EncodeChar c = [byte] ∧
      Char.ofNat byte.toNat = c ∧ Url.hexValue? c = none ∧ c ≠ '%' ∧ plusAsSpace c = c := by
    rcases hc with rfl | rfl
    · exact ⟨0x3D, by decide⟩
    · exact ⟨0x3F, by decide⟩
  obtain ⟨hencode, hchar, hhex, hpercent, hplus⟩ := hcode
  rw [decode, List.map_append, List.map_cons, hplus, Url.percentDecode_append hhex, Url.percentDecode_cons hpercent,
    hencode, List.singleton_append, Unicode.decodeLossy_append_ascii hbyte, hchar]
  rfl

/-! ### Entries -/

theorem notMem_writeEntry {c : Char} (hc : c ∈ ['&', '#', '?']) (entry : String × String) :
    c ∉ writeEntry entry := by
  obtain ⟨hmem, hne⟩ : c ∈ ['&', '=', '#', '?'] ∧ c ≠ '=' := by
    simp only [List.mem_cons, List.not_mem_nil, or_false] at hc
    rcases hc with rfl | rfl | rfl <;> decide
  rw [writeEntry, List.mem_append, List.mem_cons]
  rintro (hname | heq | hvalue)
  · exact notMem_encode hmem _ hname
  · exact hne heq
  · exact notMem_encode hmem _ hvalue

theorem readEntry_writeEntry (entry : String × String) : readEntry (writeEntry entry) = entry := by
  rw [readEntry, writeEntry, cutAt_append (notMem_encode (by decide) _)]
  simp [decode_encode]

/-- What was written is read back. -/
theorem read_write (entries : List (String × String)) : read (write entries) = entries := by
  cases entries with
  | nil => rfl
  | cons entry entries =>
      have hfree : ∀ piece ∈ (entry :: entries).map writeEntry, '&' ∉ piece := by
        rintro _ hpiece
        obtain ⟨other, _, rfl⟩ := List.mem_map.mp hpiece
        exact notMem_writeEntry (by decide) other
      have hfilled : ∀ piece ∈ (entry :: entries).map writeEntry, decide (piece ≠ []) = true := by
        rintro _ hpiece
        obtain ⟨other, _, rfl⟩ := List.mem_map.mp hpiece
        simp [writeEntry]
      have hne : (entry :: entries).map writeEntry ≠ [] := List.cons_ne_nil _ _
      rw [read, write, pieces_joinPieces hne hfree, List.filter_eq_self.mpr hfilled, List.map_map]
      exact (List.map_congr_left fun other _ => readEntry_writeEntry other).trans (List.map_id _)

theorem notMem_write {c : Char} (hc : c ∈ ['#', '?']) (entries : List (String × String)) : c ∉ write entries := by
  have hne : c ≠ '&' := by
    rintro rfl
    simp at hc
  intro hmem
  rcases mem_joinPieces hmem with heq | ⟨piece, hpiece, hc'⟩
  · exact hne heq
  · obtain ⟨entry, _, rfl⟩ := List.mem_map.mp hpiece
    exact notMem_writeEntry (List.mem_cons_of_mem '&' hc) entry hc'

/-! ### Entries that are lost -/

theorem write_singleton (entry : String × String) : write [entry] = writeEntry entry := by
  rw [write, List.map_singleton, joinPieces, List.intercalate_singleton]

/-- Behind a question mark an entry is no longer the same: it is longer, in its name or in its value. -/
theorem readEntry_append_ne (front : List Char) (entry : String × String) :
    readEntry (front ++ '?' :: writeEntry entry) ≠ entry := by
  obtain ⟨name, value⟩ := entry
  intro hsame
  by_cases hequals : '=' ∈ front
  · obtain ⟨before, after, rfl, hbefore⟩ := List.eq_append_cons_of_mem hequals
    rw [List.append_assoc, List.cons_append, readEntry, cutAt_append hbefore] at hsame
    have hvalue : String.ofList (decode (after ++ '?' :: writeEntry (name, value))) = value :=
      congrArg Prod.snd hsame
    have hentry : decode (writeEntry (name, value)) = name.toList ++ '=' :: value.toList := by
      rw [writeEntry, decode_append (Or.inl rfl), decode_encode, decode_encode]
    rw [decode_append (Or.inr rfl), hentry, ← String.toList_inj, String.toList_ofList] at hvalue
    have hlength := congrArg List.length hvalue
    simp only [List.length_append, List.length_cons] at hlength
    omega
  · have hfree : '=' ∉ front ++ '?' :: encode name.toList := by
      rw [List.mem_append, List.mem_cons]
      rintro (h | h | h)
      · exact hequals h
      · simp at h
      · exact notMem_encode (by decide) _ h
    rw [writeEntry, ← List.cons_append, ← List.append_assoc, readEntry, cutAt_append hfree] at hsame
    have hname : String.ofList (decode (front ++ '?' :: encode name.toList)) = name := congrArg Prod.fst hsame
    rw [decode_append (Or.inr rfl), decode_encode, ← String.toList_inj, String.toList_ofList] at hname
    have hlength := congrArg List.length hname
    simp only [List.length_append, List.length_cons] at hlength
    omega

theorem exists_read_append (front : List Char) : ∃ early last, ∀ entry,
    read (front ++ '?' :: writeEntry entry) = early ++ [readEntry (last ++ '?' :: writeEntry entry)] := by
  obtain ⟨early, last, hpieces⟩ := pieces_append_of_free (· = '&') front
  refine ⟨(early.filter (· ≠ [])).map readEntry, last, fun entry => ?_⟩
  have hfree : ∀ c ∈ '?' :: writeEntry entry, decide (c = '&') = false := by
    intro c hc
    refine decide_eq_false ?_
    rintro rfl
    rcases List.mem_cons.mp hc with h | h
    · simp at h
    · exact notMem_writeEntry (by decide) entry h
  rw [read, hpieces _ hfree, List.filter_append, List.map_append]
  simp

end ApiProxy.Form
