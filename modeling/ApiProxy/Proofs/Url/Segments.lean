import Mathlib.Data.Bool.AllAny
import ApiProxy.Proofs.Text.Pieces
import ApiProxy.Proofs.Url.Coding
import ApiProxy.Url.Relative

/-! The segments of a path. Dot segments are those that stand for dots once they are decoded, however they are
written, so encoding a piece of a path makes no dot segment of it. Segments that were read are therefore read back
one by one. -/

namespace ApiProxy.Url

variable {c d : Char} {text segment : List Char} {segments parts : List (List Char)}

/-! ### Dot segments -/

/-- The ways in which a dot is written. -/
def dotForms : List (List Char) := [['.'], ['%', '2', 'e'], ['%', '2', 'E']]

def dotByte : UInt8 := 0x2E

theorem eq_dot_of_utf8EncodeChar {bytes rest : List UInt8} (h : String.utf8EncodeChar c ++ bytes = dotByte :: rest) :
    c = '.' ∧ bytes = rest := by
  have hc : c = '.' := by
    have hread := Unicode.characters_encodeChar c bytes
    rw [h, Unicode.characters_ascii (by decide)] at hread
    exact (Option.some.inj (List.cons.inj hread).1).symm
  subst hc
  exact ⟨rfl, (List.cons.inj h).2⟩

theorem hexValue?_spec {value : Nat} (h : hexValue? c = some value) :
    value < 16 ∧ (value = 2 → c = '2') ∧ (value = 14 → c = 'e' ∨ c = 'E') := by
  have hdigits : ∀ code < 128, ∀ value ∈ hexValue? (Char.ofNat code),
      value < 16 ∧ (value = 2 → Char.ofNat code = '2') ∧
        (value = 14 → Char.ofNat code = 'e' ∨ Char.ofNat code = 'E') := by decide +kernel
  obtain ⟨code, hcode, rfl⟩ := exists_ascii (toNat_lt_of_hexValue? h)
  exact hdigits code hcode value h

theorem percentDecode_eq_dot_cons {bytes : List UInt8} (h : percentDecode text = dotByte :: bytes) :
    ∃ form ∈ dotForms, ∃ rest, text = form ++ rest ∧ percentDecode rest = bytes := by
  revert h
  fun_cases percentDecode text with
  | case1 =>
      intro h
      cases h
  | case2 high low rest first second hlow hhigh =>
      intro h
      obtain ⟨hbyte, hrest⟩ := List.cons.inj h
      obtain ⟨hfirst, htwo, _⟩ := hexValue?_spec hhigh
      obtain ⟨hsecond, _, hfourteen⟩ := hexValue?_spec hlow
      have hvalue : first * 16 + second = 0x2E := by
        have hcode : first * 16 + second < 256 := by omega
        rw [← toNat_ofNat_of_lt hcode, hbyte]
        rfl
      rw [htwo (by omega)]
      rcases hfourteen (by omega) with rfl | rfl
      · exact ⟨['%', '2', 'e'], by decide, rest, rfl, hrest⟩
      · exact ⟨['%', '2', 'E'], by decide, rest, rfl, hrest⟩
  | case3 high low rest hnone =>
      intro h
      exact absurd (eq_dot_of_utf8EncodeChar h).1 (by decide)
  | case4 c rest hshort =>
      intro h
      obtain ⟨rfl, hrest⟩ := eq_dot_of_utf8EncodeChar h
      exact ⟨['.'], by decide, rest, rfl, hrest⟩

theorem percentDecode_dotForm {form : List Char} (h : form ∈ dotForms) (rest : List Char) :
    percentDecode (form ++ rest) = dotByte :: percentDecode rest := by
  simp only [dotForms, List.mem_cons, List.not_mem_nil, or_false] at h
  rcases h with rfl | rfl | rfl
  · exact percentDecode_cons (by decide) rest
  · simp [percentDecode, hexValue?, dotByte]
  · simp [percentDecode, hexValue?, dotByte]

theorem toNat_lt_of_toLower (h : c.toLower.toNat < 128) : c.toNat < 128 := by
  by_cases hupper : c.val ≥ 'A'.val ∧ c.val ≤ 'Z'.val
  · have hbound : 'Z'.val.toNat = 90 := rfl
    have hcode : c.toNat = c.val.toNat := rfl
    have hle := UInt32.le_iff_toNat_le.mp hupper.2
    omega
  · have hsame : c.toLower = c := dif_neg hupper
    rwa [hsame] at h

theorem toLower_eq_mark_iff (hd : d ∈ ['.', '%', '2']) : c.toLower = d ↔ c = d := by
  have hmarks : ∀ d ∈ ['.', '%', '2'], ∀ code < 128, (Char.ofNat code).toLower = d → Char.ofNat code = d :=
    List.all_iff_forall_prop.mp (by decide +kernel)
  have hself : ∀ d ∈ ['.', '%', '2'], d.toLower = d ∧ d.toNat < 128 := List.all_iff_forall_prop.mp (by decide)
  constructor
  · rintro h
    obtain ⟨code, hcode, rfl⟩ := exists_ascii (toNat_lt_of_toLower (c := c) (h ▸ (hself d hd).2))
    exact hmarks d hd code hcode h
  · rintro rfl
    exact (hself c hd).1

theorem toLower_eq_e_iff : c.toLower = 'e' ↔ c = 'e' ∨ c = 'E' := by
  have hletters : ∀ code < 128, (Char.ofNat code).toLower = 'e' → Char.ofNat code = 'e' ∨ Char.ofNat code = 'E' := by
    decide +kernel
  constructor
  · intro h
    have hbound : c.toLower.toNat < 128 := h ▸ (by decide : 'e'.toNat < 128)
    obtain ⟨code, hcode, rfl⟩ := exists_ascii (toNat_lt_of_toLower hbound)
    exact hletters code hcode h
  · rintro (rfl | rfl) <;> rfl

theorem dotForm_of_map_toLower {lowered rest : List Char} (hlowered : lowered ∈ [['.'], ['%', '2', 'e']])
    (h : text.map Char.toLower = lowered ++ rest) :
    ∃ form ∈ dotForms, ∃ tail, text = form ++ tail ∧ tail.map Char.toLower = rest := by
  simp only [List.mem_cons, List.not_mem_nil, or_false] at hlowered
  rcases hlowered with rfl | rfl
  · obtain ⟨dot, tail, rfl, hdot, hrest⟩ := List.map_eq_cons_iff.mp h
    rw [toLower_eq_mark_iff (by decide)] at hdot
    subst hdot
    exact ⟨['.'], by decide, tail, rfl, hrest⟩
  · obtain ⟨percent, text, rfl, hpercent, h⟩ := List.map_eq_cons_iff.mp h
    obtain ⟨two, text, rfl, htwo, h⟩ := List.map_eq_cons_iff.mp h
    obtain ⟨letter, tail, rfl, hletter, hrest⟩ := List.map_eq_cons_iff.mp h
    rw [toLower_eq_mark_iff (by decide)] at hpercent htwo
    subst hpercent htwo
    rcases toLower_eq_e_iff.mp hletter with rfl | rfl
    · exact ⟨['%', '2', 'e'], by decide, tail, rfl, hrest⟩
    · exact ⟨['%', '2', 'E'], by decide, tail, rfl, hrest⟩

theorem isSingleDot_iff_mem : isSingleDot segment = true ↔ segment ∈ dotForms := by
  constructor
  · intro h
    obtain ⟨form, hform, tail, rfl, htail⟩ :=
      dotForm_of_map_toLower (of_decide_eq_true h) (List.append_nil (segment.map Char.toLower)).symm
    rw [List.map_eq_nil_iff.mp htail, List.append_nil]
    exact hform
  · exact fun h => (by decide : ∀ form ∈ dotForms, isSingleDot form = true) segment h

theorem isDoubleDot_iff_append : isDoubleDot segment = true ↔
    ∃ first ∈ dotForms, ∃ second ∈ dotForms, segment = first ++ second := by
  constructor
  · intro h
    have hlowered : ∃ first ∈ [['.'], ['%', '2', 'e']], ∃ second ∈ [['.'], ['%', '2', 'e']],
        segment.map Char.toLower = first ++ second := by
      simpa [isDoubleDot, or_assoc] using h
    obtain ⟨_, hfirst, _, hsecond, hboth⟩ := hlowered
    obtain ⟨first, hfirst, tail, rfl, htail⟩ := dotForm_of_map_toLower hfirst hboth
    obtain ⟨second, hsecond, last, rfl, hlast⟩ :=
      dotForm_of_map_toLower hsecond (htail.trans (List.append_nil _).symm)
    rw [List.map_eq_nil_iff.mp hlast, List.append_nil]
    exact ⟨first, hfirst, second, hsecond, rfl⟩
  · rintro ⟨first, hfirst, second, hsecond, rfl⟩
    have hforms : ∀ first ∈ dotForms, ∀ second ∈ dotForms, isDoubleDot (first ++ second) = true := by decide
    exact hforms first hfirst second hsecond

theorem isSingleDot_iff : isSingleDot segment = true ↔ percentDecode segment = [dotByte] := by
  rw [isSingleDot_iff_mem]
  constructor
  · intro h
    have hdecode := percentDecode_dotForm h []
    rwa [List.append_nil] at hdecode
  · intro h
    obtain ⟨form, hform, tail, rfl, htail⟩ := percentDecode_eq_dot_cons h
    rw [percentDecode_eq_nil_iff.mp htail, List.append_nil]
    exact hform

theorem isDoubleDot_iff : isDoubleDot segment = true ↔ percentDecode segment = [dotByte, dotByte] := by
  rw [isDoubleDot_iff_append]
  constructor
  · rintro ⟨first, hfirst, second, hsecond, rfl⟩
    rw [percentDecode_dotForm hfirst, ← List.append_nil second, percentDecode_dotForm hsecond]
    rfl
  · intro h
    obtain ⟨first, hfirst, tail, rfl, htail⟩ := percentDecode_eq_dot_cons h
    obtain ⟨second, hsecond, last, rfl, hlast⟩ := percentDecode_eq_dot_cons htail
    rw [percentDecode_eq_nil_iff.mp hlast, List.append_nil]
    exact ⟨first, hfirst, second, hsecond, rfl⟩

/-- Encoding makes no dots. -/
theorem isSingleDot_percentEncode (text : List Char) :
    isSingleDot (percentEncode isEncodedInPath text) = isSingleDot text := by
  rw [Bool.eq_iff_iff, isSingleDot_iff, isSingleDot_iff, percentDecode_percentEncode_of_spares sparesCodes_path]

theorem isDoubleDot_percentEncode (text : List Char) :
    isDoubleDot (percentEncode isEncodedInPath text) = isDoubleDot text := by
  rw [Bool.eq_iff_iff, isDoubleDot_iff, isDoubleDot_iff, percentDecode_percentEncode_of_spares sparesCodes_path]

/-! ### Paths of servers -/

/-- A segment in the form in which it is kept. -/
structure IsSegment (segment : List Char) : Prop where
  plain : ∀ c ∈ segment, isEncodedInPath c = false
  free : ∀ c ∈ segment, isSlash true c = false
  single : isSingleDot segment = false
  double : isDoubleDot segment = false

theorem isSegment_nil : IsSegment [] :=
  ⟨fun _ hc => absurd hc List.not_mem_nil, fun _ hc => absurd hc List.not_mem_nil, rfl, rfl⟩

theorem isSlash_eq_false_iff : isSlash true c = false ↔ c ≠ '/' ∧ c ≠ '\\' := by
  simp [isSlash]

theorem isSegment_percentEncode (hfree : ∀ c ∈ text, isSlash true c = false) (hsingle : isSingleDot text = false)
    (hdouble : isDoubleDot text = false) : IsSegment (percentEncode isEncodedInPath text) := by
  refine ⟨fun c hc => isEncoded_of_mem_percentEncode sparesCodes_path hc, fun c hc => ?_, ?_, ?_⟩
  · rcases mem_percentEncode_cases hc with rfl | halphanum | ⟨hmem, _⟩
    · rfl
    · rw [isSlash_eq_false_iff]
      constructor <;> rintro rfl <;> cases halphanum
    · exact hfree c hmem
  · rwa [isSingleDot_percentEncode]
  · rwa [isDoubleDot_percentEncode]

theorem isSegment_of_mem_goUp (h : ∀ segment ∈ segments, IsSegment segment) :
    ∀ segment ∈ goUp segments, IsSegment segment := by
  intro segment hmem
  cases segments with
  | nil => cases hmem
  | cons last earlier =>
      rw [goUp] at hmem
      split_ifs at hmem
      · exact h segment hmem
      · exact h segment (List.mem_cons_of_mem last hmem)

/-- Every step keeps the segments before it in form, so a whole path is in form. -/
theorem isSegment_of_mem_resolveSegments (hsegments : ∀ segment ∈ segments, IsSegment segment)
    (hparts : ∀ part ∈ parts, ∀ c ∈ part, isSlash true c = false) :
    ∀ segment ∈ resolveSegments false segments parts, IsSegment segment := by
  induction parts generalizing segments with
  | nil =>
      intro segment hmem
      rw [resolveSegments, List.mem_reverse] at hmem
      exact hsegments segment hmem
  | cons part parts ih =>
      rw [List.forall_mem_cons] at hparts
      have hclose : ∀ kept : List (List Char), (∀ segment ∈ kept, IsSegment segment) →
          ∀ segment ∈ if parts.isEmpty then [] :: kept else kept, IsSegment segment := by
        intro kept hkept
        split_ifs
        · exact List.forall_mem_cons.mpr ⟨isSegment_nil, hkept⟩
        · exact hkept
      rw [resolveSegments]
      by_cases hdouble : isDoubleDot part = true
      · rw [if_pos hdouble]
        exact ih (hclose _ (isSegment_of_mem_goUp hsegments)) hparts.2
      rw [if_neg hdouble]
      by_cases hsingle : isSingleDot part = true
      · rw [if_pos hsingle]
        exact ih (hclose _ hsegments) hparts.2
      · rw [if_neg hsingle]
        refine ih (List.forall_mem_cons.mpr ⟨?_, hsegments⟩) hparts.2
        exact isSegment_percentEncode hparts.1 (eq_false_of_ne_true hsingle) (eq_false_of_ne_true hdouble)

theorem resolveSegments_ne_nil (hparts : parts ≠ []) (segments : List (List Char)) (isFile : Bool) :
    resolveSegments isFile segments parts ≠ [] := by
  induction parts generalizing segments with
  | nil => exact absurd rfl hparts
  | cons part parts ih =>
      cases parts with
      | nil =>
          simp only [resolveSegments, List.isEmpty_nil, if_true]
          split_ifs <;> simp
      | cons next parts =>
          have hlater := fun segments => ih (List.cons_ne_nil next parts) segments
          simp only [resolveSegments.eq_2 _ _ part]
          split_ifs <;> exact hlater _

/-- Segments in form are resolved to themselves. -/
theorem resolveSegments_of_isSegment (hparts : ∀ part ∈ parts, IsSegment part) (segments : List (List Char)) :
    resolveSegments false segments parts = segments.reverse ++ parts := by
  induction parts generalizing segments with
  | nil => rw [resolveSegments, List.append_nil]
  | cons part parts ih =>
      rw [List.forall_mem_cons] at hparts
      have hwritten : written false segments part = part := percentEncode_of_plain hparts.1.plain
      rw [resolveSegments, if_neg (Bool.eq_false_iff.mp hparts.1.double),
        if_neg (Bool.eq_false_iff.mp hparts.1.single), hwritten, ih hparts.2, List.reverse_cons, List.append_assoc]
      rfl

theorem isSegment_of_mem_segmentsOf {text : List Char} :
    ∀ segment ∈ segmentsOf true false text, IsSegment segment :=
  isSegment_of_mem_resolveSegments (fun _ h => absurd h List.not_mem_nil)
    fun _ hpart _ hc => isSeparator_of_mem_pieces hpart hc

theorem segmentsOf_ne_nil (isSpecial isFile : Bool) (text : List Char) : segmentsOf isSpecial isFile text ≠ [] :=
  resolveSegments_ne_nil (pieces_ne_nil _ _) _ _

/-- Segments behind slashes. -/
def pathText (segments : List (List Char)) : List Char := segments.flatMap fun segment => '/' :: segment

theorem pieces_pathText {segment : List Char} (hsegment : ∀ c ∈ segment, isSlash true c = false)
    (hsegments : ∀ segment ∈ segments, ∀ c ∈ segment, isSlash true c = false) :
    pieces (isSlash true) (segment ++ pathText segments) = segment :: segments := by
  induction segments generalizing segment with
  | nil => rw [pathText, List.flatMap_nil, List.append_nil, pieces_of_free hsegment]
  | cons next segments ih =>
      rw [List.forall_mem_cons] at hsegments
      rw [pathText] at ih ⊢
      rw [List.flatMap_cons, List.cons_append, pieces_append_cons rfl, pieces_of_free hsegment,
        ih hsegments.1 hsegments.2]
      rfl

/-- A path in form is read back. -/
theorem segmentsOf_pathText (hne : segments ≠ []) (h : ∀ segment ∈ segments, IsSegment segment) :
    segmentsOf true false (pathText segments) = segments := by
  cases segments with
  | nil => exact absurd rfl hne
  | cons segment segments =>
      have hall := List.forall_mem_cons.mp h
      have hunrooted : unrooted true (pathText (segment :: segments)) = segment ++ pathText segments := rfl
      rw [segmentsOf, hunrooted, pieces_pathText hall.1.free fun other hother => (hall.2 other hother).free,
        resolveSegments_of_isSegment h]
      rfl

end ApiProxy.Url
