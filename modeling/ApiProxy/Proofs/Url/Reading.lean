import ApiProxy.Proofs.Url.Authority
import ApiProxy.Proofs.Url.Segments
import ApiProxy.Unicode.Letter

/-! The URL of a server is read back from its text. Each of its parts is kept as it is written, holds none of the marks
that end it, and is encoded once; so reading its text cuts it at the same places and changes nothing. -/

namespace ApiProxy.Url

variable {scheme : String} {text front : List Char} {url : Url} {authority : Authority}
  {segments : List (List Char)}

/-! ### Blanks -/

theorem dropWhile_of_forall {p : Char → Bool} (h : ∀ c ∈ text, p c = false) : text.dropWhile p = text := by
  cases text with
  | nil => rfl
  | cons c text => rw [List.dropWhile_cons, h c List.mem_cons_self, if_neg Bool.false_ne_true]

theorem trim_ends {p : Char → Bool} (h : ∀ c ∈ text, p c = false) :
    ((text.dropWhile p).reverse.dropWhile p).reverse = text := by
  rw [dropWhile_of_forall h, dropWhile_of_forall fun c hc => h c (List.mem_reverse.mp hc), List.reverse_reverse]

theorem cleaned_of_visible (h : ∀ c ∈ text, IsVisible c) : cleaned text = text := by
  have houter : ∀ c ∈ text, isOuterBlank c = false := fun c hc => decide_eq_false (Nat.not_le.mpr (h c hc).1)
  have hinner : ∀ c ∈ text, (!isInnerBlank c) = true := by
    intro c hc
    have hvisible := h c hc
    rw [Bool.not_eq_true', isInnerBlank]
    simp only [Bool.or_eq_false_iff, decide_eq_false_iff_not]
    refine ⟨⟨?_, ?_⟩, ?_⟩ <;> rintro rfl <;> exact absurd hvisible (by decide)
  rw [cleaned, trim_ends houter, List.filter_eq_self.mpr hinner]

theorem trim_of_visible (h : ∀ c ∈ text, IsVisible c) : Unicode.trim text = text := by
  have hascii : ∀ code < 128, 0x20 < code → code < 0x7F → Unicode.isBlank (Char.ofNat code) = false := by
    decide +kernel
  refine trim_ends fun c hc => ?_
  obtain ⟨hlow, hhigh⟩ := h c hc
  rw [← c.ofNat_toNat]
  exact hascii c.toNat (by omega) hlow hhigh

/-! ### Schemes -/

def serverSchemes : List String := ["http", "ws", "https", "wss", "ftp"]

theorem mem_serverSchemes (h : (defaultPort? scheme).isSome = true) : scheme ∈ serverSchemes := by
  rw [defaultPort?.eq_def] at h
  split at h <;> first | decide | cases h

theorem cutScheme?_server (h : (defaultPort? scheme).isSome = true) (rest : List Char) :
    cutScheme? (scheme.toList ++ ':' :: rest) = some (scheme, rest) := by
  have hschemes : ∀ scheme ∈ serverSchemes, ':' ∉ scheme.toList ∧ scheme.toList.head?.any Char.isAlpha = true ∧
      scheme.toList.all isSchemeCharacter = true ∧ String.ofList (scheme.toList.map Char.toLower) = scheme := by decide
  obtain ⟨hcolon, halpha, hall, hlower⟩ := hschemes scheme (mem_serverSchemes h)
  rw [cutScheme?, cutAt_append hcolon]
  dsimp only
  rw [halpha, hall, hlower]
  rfl

theorem isSpecial_server (h : (defaultPort? scheme).isSome = true) : isSpecial scheme = true := by
  rw [isSpecial, h, Bool.or_true]

theorem ne_fileScheme (h : (defaultPort? scheme).isSome = true) : scheme ≠ fileScheme := by
  rintro rfl
  cases h

theorem placeOf_server (h : (defaultPort? scheme).isSome = true) (text : List Char) :
    placeOf scheme text = serverPlace scheme text := by
  rw [placeOf, if_neg (ne_fileScheme h), if_pos (isSpecial_server h)]

/-! ### Places -/

/-- A place that is read back. -/
structure Place.Settled (scheme : String) (place : Place) : Prop where
  authority : ∃ authority, place.authority? = some authority ∧ authority.Settled scheme
  path : ∃ segments, place.path = rootedPath segments ∧ segments ≠ [] ∧ ∀ segment ∈ segments, IsSegment segment

theorem settled_of_serverPlace {place : Place} (hserver : (defaultPort? scheme).isSome = true)
    (h : serverPlace scheme text = .ok place) : place.Settled scheme := by
  obtain ⟨⟨authorityText, pathText⟩, hcut⟩ :
      ∃ cut, (text.dropWhile (isSlash true)).span (fun c => !isSlash true c) = cut := ⟨_, rfl⟩
  rw [serverPlace, hcut] at h
  obtain ⟨authority, hauthority, h⟩ := Outcome.bind_eq_ok_iff.mp h
  cases h
  exact ⟨⟨authority, rfl, settled_of_authorityOf hserver hauthority⟩,
    ⟨_, rfl, segmentsOf_ne_nil true false pathText, isSegment_of_mem_segmentsOf⟩⟩

theorem isSlash_of_mem_inner (h : authority.Settled scheme) {c : Char} (hc : c ∈ authority.inner) :
    isSlash true c = false := by
  have hmarks := (h.visible_inner hc).2
  rw [isSlash_eq_false_iff]
  constructor <;> rintro rfl <;> exact hmarks (by decide)

/-- The slashes in front of an authority end with the first character of it. -/
theorem dropWhile_slashes (h : authority.Settled scheme) (back : List Char) :
    ('/' :: '/' :: (authority.inner ++ back)).dropWhile (isSlash true) = authority.inner ++ back := by
  have hslash : isSlash true '/' = true := rfl
  have hne : authority.inner ≠ [] := by
    simp [Authority.inner, h.host.nonempty]
  obtain ⟨c, rest, hinner⟩ := List.exists_cons_of_ne_nil hne
  have hc := isSlash_of_mem_inner h (hinner ▸ List.mem_cons_self)
  rw [hinner, List.cons_append, List.dropWhile_cons_of_pos hslash, List.dropWhile_cons_of_pos hslash,
    List.dropWhile_cons_of_neg (Bool.eq_false_iff.mp hc)]

/-- The first slash behind an authority begins the path. -/
theorem span_inner (h : authority.Settled scheme) (hne : segments ≠ []) :
    (authority.inner ++ pathText segments).span (fun c => !isSlash true c) = (authority.inner, pathText segments) := by
  have hfree : ∀ c ∈ authority.inner, (!isSlash true c) = true := by
    intro c hc
    rw [isSlash_of_mem_inner h hc, Bool.not_false]
  obtain ⟨segment, later, rfl⟩ := List.exists_cons_of_ne_nil hne
  rw [List.span_eq_takeWhile_dropWhile, List.takeWhile_append_of_pos hfree, List.dropWhile_append_of_pos hfree]
  simp [pathText, isSlash]

theorem serverPlace_text (hserver : (defaultPort? scheme).isSome = true) (hauthority : authority.Settled scheme)
    (hne : segments ≠ []) (hsegments : ∀ segment ∈ segments, IsSegment segment) :
    serverPlace scheme ('/' :: '/' :: (authority.inner ++ pathText segments)) =
      .ok ⟨some authority, rootedPath segments⟩ := by
  rw [serverPlace, dropWhile_slashes hauthority, span_inner hauthority hne]
  dsimp only
  rw [hauthority.authorityOf_inner hserver, segmentsOf_pathText hne hsegments]
  rfl

/-! ### Queries and fragments -/

/-- A text behind its mark. -/
def behind (mark : Char) : Option String → List Char
  | some text => mark :: text.toList
  | none => []

theorem toList_marked {mark : String} {c : Char} (h : mark.toList = [c]) (text? : Option String) :
    (marked mark text?).toList = behind c text? := by
  cases text? with
  | none => rfl
  | some text => rw [marked, String.toList_append, h, List.singleton_append, behind]

theorem cutAt_behind {mark : Char} (h : mark ∉ front) (text? : Option String) :
    cutAt mark (front ++ behind mark text?) = (front, text?.map String.toList) := by
  cases text? with
  | none => rw [behind, List.append_nil, cutAt_of_notMem h, Option.map_none]
  | some text => exact cutAt_append h text.toList

/-- A text that is encoded is encoded to itself. -/
theorem map_percentEncode {isEncoded : Char → Bool} {text? : Option String}
    (h : ∀ text, text? = some text → ∀ c ∈ text.toList, isEncoded c = false) :
    (text?.map String.toList).map (fun text => String.ofList (percentEncode isEncoded text)) = text? := by
  cases text? with
  | none => rfl
  | some text => rw [Option.map_some, Option.map_some, percentEncode_of_plain (h text rfl), String.ofList_toList]

theorem isEncoded_of_map_percentEncode {isEncoded : Char → Bool} (hset : SparesCodes isEncoded)
    {text? : Option (List Char)} {text : String}
    (h : text?.map (fun text => String.ofList (percentEncode isEncoded text)) = some text) :
    ∀ c ∈ text.toList, isEncoded c = false := by
  obtain ⟨plain, _, rfl⟩ := Option.map_eq_some_iff.mp h
  intro c hc
  rw [String.toList_ofList] at hc
  exact isEncoded_of_mem_percentEncode hset hc

/-! ### Whole URLs -/

/-- The URL of a server that is read back from its text. -/
structure Settled (url : Url) : Prop where
  server : (defaultPort? url.scheme).isSome = true
  authority : ∃ authority, url.authority? = some authority ∧ authority.Settled url.scheme
  path : ∃ segments, url.path = rootedPath segments ∧ segments ≠ [] ∧ ∀ segment ∈ segments, IsSegment segment
  query : ∀ query, url.query? = some query → ∀ c ∈ query.toList, isEncodedInSpecialQuery c = false
  fragment : ∀ fragment, url.fragment? = some fragment → ∀ c ∈ fragment.toList, isEncodedInFragment c = false

/-- How a text is read behind its scheme. -/
theorem parse_eq {text : String} {rest body place : List Char} {query? fragment? : Option (List Char)}
    (hscheme : cutScheme? (cleaned text.toList) = some (scheme, rest))
    (hfragment : cutAt '#' rest = (body, fragment?)) (hquery : cutAt '?' body = (place, query?)) :
    parse text = (placeOf scheme place).map fun place => {
      scheme
      authority? := place.authority?
      path := place.path
      query? := query?.map fun query =>
        String.ofList (percentEncode (if isSpecial scheme then isEncodedInSpecialQuery else isEncodedInQuery) query)
      fragment? := fragment?.map fun fragment => String.ofList (percentEncode isEncodedInFragment fragment) } := by
  rw [parse, hscheme]
  simp only [hfragment, hquery]
  cases placeOf scheme place <;> rfl

theorem settled_of_parse {text : String} (h : parse text = .ok url)
    (hserver : (defaultPort? url.scheme).isSome = true) : url.Settled := by
  cases hscheme : cutScheme? (cleaned text.toList) with
  | none =>
      rw [parse, hscheme] at h
      cases h
  | some found =>
      obtain ⟨scheme, rest⟩ := found
      obtain ⟨⟨body, fragment?⟩, hfragment⟩ : ∃ cut, cutAt '#' rest = cut := ⟨_, rfl⟩
      obtain ⟨⟨place, query?⟩, hquery⟩ : ∃ cut, cutAt '?' body = cut := ⟨_, rfl⟩
      rw [parse_eq hscheme hfragment hquery] at h
      obtain ⟨place, hplace, rfl⟩ := Outcome.map_eq_ok_iff.mp h
      rw [placeOf_server hserver] at hplace
      rw [isSpecial_server hserver]
      have hsettled := settled_of_serverPlace hserver hplace
      exact ⟨hserver, hsettled.authority, hsettled.path,
        fun _ hquery => isEncoded_of_map_percentEncode sparesCodes_specialQuery hquery,
        fun _ hfragment => isEncoded_of_map_percentEncode sparesCodes_fragment hfragment⟩

theorem toList_rootedPath (segments : List (List Char)) : (rootedPath segments).text.toList = pathText segments := by
  rw [rootedPath, Path.text, pathText, String.toList_join, List.map_map, List.flatMap_map]
  simp

/-- The text of a server's URL in its parts. -/
theorem toList_text (hauthority : url.authority? = some authority) (hpath : url.path = rootedPath segments) :
    url.text.toList = url.scheme.toList ++ ':' :: ('/' :: '/' :: (authority.inner ++ pathText segments) ++
      behind '?' url.query? ++ behind '#' url.fragment?) := by
  have hseparator : url.separator = authority.text := by
    rw [separator, hauthority]
  have hquery : "?".toList = ['?'] := rfl
  have hfragment : "#".toList = ['#'] := rfl
  rw [text, target, hseparator, hpath]
  simp only [String.toList_append, Authority.toList_text, toList_rootedPath, toList_marked hquery,
    toList_marked hfragment]
  simp

/-- The text of a place is printable, and nothing in it begins a query or a fragment. -/
theorem visible_place {c : Char} (hauthority : authority.Settled scheme)
    (hsegments : ∀ segment ∈ segments, IsSegment segment)
    (hc : c ∈ '/' :: '/' :: (authority.inner ++ pathText segments)) : IsVisible c ∧ c ∉ ['#', '?'] := by
  have hcases : c = '/' ∨ c ∈ authority.inner ∨ ∃ segment ∈ segments, c ∈ segment := by
    simp only [List.mem_cons, List.mem_append, pathText, List.mem_flatMap] at hc
    grind
  rcases hcases with rfl | hc | ⟨segment, hsegment, hc⟩
  · decide
  · obtain ⟨hvisible, hmarks⟩ := hauthority.visible_inner hc
    simp only [List.mem_cons, List.not_mem_nil, or_false, not_or] at hmarks ⊢
    exact ⟨hvisible, hmarks.1, hmarks.2.2.1⟩
  · exact isVisible_of_path ((hsegments segment hsegment).plain c hc)

theorem mem_behind {c mark : Char} {text? : Option String} (h : c ∈ behind mark text?) :
    c = mark ∨ ∃ text, text? = some text ∧ c ∈ text.toList := by
  cases text? with
  | none => cases h
  | some text => exact (List.mem_cons.mp h).imp_right fun hc => ⟨text, rfl, hc⟩

theorem visible_text (h : url.Settled) : ∀ c ∈ url.text.toList, IsVisible c := by
  obtain ⟨authority, hauthority, hsettled⟩ := h.authority
  obtain ⟨segments, hpath, _, hsegments⟩ := h.path
  have hschemes : ∀ scheme ∈ serverSchemes, scheme.toList.all (IsVisible ·) = true := by decide
  intro c hc
  rw [toList_text hauthority hpath, List.mem_append, List.mem_cons, List.mem_append, List.mem_append] at hc
  rcases hc with hc | rfl | (hc | hc) | hc
  · exact List.all_iff_forall_prop.mp (hschemes _ (mem_serverSchemes h.server)) c hc
  · decide
  · exact (visible_place hsettled hsegments hc).1
  · rcases mem_behind hc with rfl | ⟨query, hquery, hc⟩
    · decide
    · exact (isVisible_of_specialQuery (h.query query hquery c hc)).1
  · rcases mem_behind hc with rfl | ⟨fragment, hfragment, hc⟩
    · decide
    · exact isVisible_of_fragment (h.fragment fragment hfragment c hc)

/-- A URL is read back from its text. -/
theorem parse_text (h : url.Settled) : parse url.text = .ok url := by
  obtain ⟨authority, hauthority, hsettled⟩ := h.authority
  obtain ⟨segments, hpath, hne, hsegments⟩ := h.path
  have hmark : ∀ mark ∈ ['#', '?'], mark ∉ '/' :: '/' :: (authority.inner ++ pathText segments) :=
    fun mark hmark hc => (visible_place hsettled hsegments hc).2 hmark
  have hbody : '#' ∉ '/' :: '/' :: (authority.inner ++ pathText segments) ++ behind '?' url.query? := by
    rw [List.mem_append, not_or]
    refine ⟨hmark '#' (by decide), fun hc => ?_⟩
    rcases mem_behind hc with hc | ⟨query, hquery, hc⟩
    · cases hc
    · exact (isVisible_of_specialQuery (h.query query hquery _ hc)).2 rfl
  have hscheme := cutScheme?_server h.server ('/' :: '/' :: (authority.inner ++ pathText segments) ++
    behind '?' url.query? ++ behind '#' url.fragment?)
  rw [← toList_text hauthority hpath, ← cleaned_of_visible (visible_text h)] at hscheme
  rw [parse_eq hscheme (cutAt_behind hbody _) (cutAt_behind (hmark '?' (by decide)) _), placeOf_server h.server,
    serverPlace_text h.server hsettled hne hsegments, if_pos (isSpecial_server h.server), map_percentEncode h.query,
    map_percentEncode h.fragment, ← hauthority, ← hpath]
  rfl

/-- What was read as the URL of a server is read back. -/
theorem parse_text_of_parse {text : String} (h : parse text = .ok url)
    (hserver : (defaultPort? url.scheme).isSome = true) : parse url.text = .ok url :=
  parse_text (settled_of_parse h hserver)

theorem trimmed_text (h : url.Settled) : Unicode.trimmed url.text = url.text := by
  rw [Unicode.trimmed, trim_of_visible (visible_text h), String.ofList_toList]

end ApiProxy.Url
