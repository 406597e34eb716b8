import ApiProxy.Proofs.Url.Reading
import ApiProxy.SchemaSource

/-! The definition of a service lies below its address. The path of the address is closed by a slash, if it is not
already, so that the endpoint takes the place of the empty segment behind it; all that stands behind the path is
dropped. Reading the address once more from its own text leads to the same place. -/

namespace ApiProxy

open Url

variable {base : Url} {front : List (List Char)} {segment : List Char}

/-- A path with a slash at its end. -/
def slashed (path : String) : String := if path.toList.getLast? = some '/' then path else path ++ "/"

namespace Url

theorem pathText_append (front back : List (List Char)) : pathText (front ++ back) = pathText front ++ pathText back :=
  List.flatMap_append

/-- A path ends in a slash exactly where its last segment is empty. -/
theorem getLast?_pathText (front : List (List Char)) (hsegment : IsSegment segment) :
    (pathText (front ++ [segment])).getLast? = some '/' ↔ segment = [] := by
  have htext : pathText (front ++ [segment]) = pathText front ++ '/' :: segment := by
    rw [pathText_append]
    simp [pathText]
  rw [htext]
  constructor
  · intro hlast
    by_contra hne
    rw [List.getLast?_append_of_ne_nil _ (List.cons_ne_nil _ _), List.getLast?_cons_of_ne_nil hne] at hlast
    exact absurd (hsegment.free '/' (List.mem_of_getLast? hlast)) (by decide)
  · rintro rfl
    simp

theorem toList_rootedPath_slash (front : List (List Char)) :
    (rootedPath front).text.toList ++ ['/'] = pathText (front ++ [[]]) := by
  rw [toList_rootedPath, pathText_append]
  rfl

/-- A path that ends in a slash is read back. -/
theorem segmentsOf_closed (h : ∀ segment ∈ front, IsSegment segment) :
    segmentsOf true false (pathText (front ++ [[]])) = front ++ [[]] :=
  segmentsOf_pathText (by simp)
    (List.forall_mem_append.mpr ⟨h, List.forall_mem_singleton.mpr isSegment_nil⟩)

theorem eq_of_closed_pathText {other : List (List Char)} (hfront : ∀ segment ∈ front, IsSegment segment)
    (hother : ∀ segment ∈ other, IsSegment segment) (h : pathText (front ++ [[]]) = pathText (other ++ [[]])) :
    front = other := by
  have hread := congrArg (segmentsOf true false) h
  rw [segmentsOf_closed hfront, segmentsOf_closed hother] at hread
  exact List.append_cancel_right hread

/-- What stands in front of the last slash, once a path ends in one. -/
theorem endedBySlash_eq (h : base.Settled) : ∃ front, (∀ segment ∈ front, IsSegment segment) ∧
    (slashed base.path.text).toList = pathText (front ++ [[]]) ∧
    base.endedBySlash = { base with path := rootedPath (front ++ [[]]) } := by
  obtain ⟨segments, hpath, hne, hsegments⟩ := h.path
  obtain ⟨front, last, rfl⟩ := (List.eq_nil_or_concat' segments).resolve_left hne
  have hlast := getLast?_pathText front (hsegments last (List.mem_append_right _ List.mem_cons_self))
  rw [← toList_rootedPath, ← hpath] at hlast
  by_cases hempty : last = []
  · subst hempty
    refine ⟨front, fun segment hmem => hsegments segment (List.mem_append_left _ hmem), ?_, ?_⟩
    · rw [slashed, if_pos (hlast.mpr rfl), hpath, toList_rootedPath]
    · rw [endedBySlash, if_pos (hlast.mpr rfl), ← hpath]
  · have htext : (base.path.text ++ "/").toList = pathText (front ++ [last] ++ [[]]) := by
      rw [String.toList_append, hpath]
      exact toList_rootedPath_slash _
    refine ⟨front ++ [last], hsegments, ?_, ?_⟩
    · rw [slashed, if_neg (hempty ∘ hlast.mp), htext]
    · -- the closed path is read anew, which changes nothing in segments that were read before
      have hread := segmentsOf_closed hsegments
      have hfile : base.isFile = false := decide_eq_false (ne_fileScheme h.server)
      rw [endedBySlash, if_neg (hempty ∘ hlast.mp), withPath, hpath, rootedPath]
      dsimp only
      rw [← rootedPath, ← hpath, htext, isSpecial_server h.server, hfile, hread]
      rfl

end Url

namespace Endpoint

/-- The segments of the path of a definition. -/
def segments : List (List Char) := pieces (isSlash true) path.toList

theorem isSegment_of_mem_segments : ∀ segment ∈ segments, IsSegment segment := by
  have hsegments : ∀ segment ∈ segments, segment.all (isEncodedInPath · = false) = true ∧
      segment.all (isSlash true · = false) = true ∧ isSingleDot segment = false ∧ isDoubleDot segment = false := by
    decide
  intro segment hmem
  obtain ⟨hplain, hfree, hsingle, hdouble⟩ := hsegments segment hmem
  exact ⟨List.all_iff_forall_prop.mp hplain, List.all_iff_forall_prop.mp hfree, hsingle, hdouble⟩

/-- The URL of a definition below the segments of an address. -/
def urlBelow (base : Url) (front : List (List Char)) : Url :=
  { base with path := rootedPath (front ++ segments), query? := some query, fragment? := none }

theorem join_eq (hserver : (defaultPort? base.scheme).isSome = true) (front : List (List Char)) :
    ({ base with path := rootedPath (front ++ [[]]), query? := none } : Url).join path =
      .ok { base with path := rootedPath (front ++ segments), query? := none, fragment? := none } := by
  have hfile : base.isFile = false := decide_eq_false (ne_fileScheme hserver)
  have hbefore : segmentsBefore false ((front ++ [[]]).map String.ofList) = front.reverse := by
    simp [segmentsBefore, Function.comp_def]
  have hjoin : ({ base with path := rootedPath (front ++ [[]]), query? := none } : Url).join path =
      .ok { base with
        path := rootedPath (resolveSegments base.isFile (segmentsBefore base.isFile ((front ++ [[]]).map String.ofList))
          (pieces (isSlash (isSpecial base.scheme)) path.toList))
        query? := none
        fragment? := none } := rfl
  rw [hjoin, hfile, hbefore, isSpecial_server hserver, ← segments,
    resolveSegments_of_isSegment isSegment_of_mem_segments, List.reverse_reverse]

theorem toList_path_urlBelow (base : Url) (front : List (List Char)) :
    (urlBelow base front).path.text.toList = pathText (front ++ [[]]) ++ path.toList := by
  have hpath : pathText segments = '/' :: path.toList := by decide
  rw [urlBelow, toList_rootedPath, pathText_append, pathText_append, hpath, List.append_assoc]
  rfl

/-- What an address leads to depends on its URL alone. -/
theorem ofAddress_eq (h : base.Settled) : ∃ front, (∀ segment ∈ front, IsSegment segment) ∧
    (slashed base.path.text).toList = pathText (front ++ [[]]) ∧
    ∀ address, Url.parse (Unicode.trimmed address) = .ok base → ofAddress address = .ok (urlBelow base front) := by
  obtain ⟨front, hfront, hslashed, hended⟩ := endedBySlash_eq h
  refine ⟨front, hfront, hslashed, fun address hbase => ?_⟩
  rw [ofAddress, parseAddress, hbase]
  simp only [Except.mapError, Outcome.ok_bind]
  rw [hended, join_eq h.server]
  rfl

/-- The URL of a definition, as it lies below the URL of a service. -/
structure Below (base url : Url) : Prop where
  scheme : url.scheme = base.scheme
  authority : ∃ authority, base.authority? = some authority ∧ url.authority? = some authority
  path : url.path.text = slashed base.path.text ++ "api/abp/api-definition"
  query : url.query? = some "includeTypes=true"
  fragment : url.fragment? = none

theorem below_urlBelow (h : base.Settled) (hslashed : (slashed base.path.text).toList = pathText (front ++ [[]])) :
    Below base (urlBelow base front) := by
  obtain ⟨authority, hauthority, _⟩ := h.authority
  refine ⟨rfl, ⟨authority, hauthority, hauthority⟩, ?_, rfl, rfl⟩
  rw [← String.toList_inj, toList_path_urlBelow, String.toList_append, hslashed]
  rfl

/-- Every address of a web service leads to the definition below it: its query, its fragment and the slash at the end
of its path make no difference, and the source that is made for the address names the same URL. -/
theorem definition_below_address {address : String} {base : Url}
    (hbase : Url.parse (Unicode.trimmed address) = .ok base) (hscheme : base.scheme ∈ ["http", "https"]) :
    ∃ url, ofAddress address = .ok url ∧ Below base url ∧
      (∀ other twin, Url.parse (Unicode.trimmed other) = .ok twin → twin.scheme = base.scheme →
        twin.authority? = base.authority? → slashed twin.path.text = slashed base.path.text →
        ofAddress other = .ok url) ∧
      ∃ source, SchemaSource.ofAddress address = .ok source ∧ source.definition = .ok url ∧
        source.location = url.text := by
  have hserver : (defaultPort? base.scheme).isSome = true :=
    (by decide : ∀ scheme ∈ ["http", "https"], (defaultPort? scheme).isSome = true) base.scheme hscheme
  have hsettled := settled_of_parse hbase hserver
  obtain ⟨front, hfront, hslashed, haddress⟩ := ofAddress_eq hsettled
  -- the source reads the address again from its own text, where it finds the same URL
  have hagain : ofAddress base.text = .ok (urlBelow base front) :=
    haddress base.text ((congrArg Url.parse (trimmed_text hsettled)).trans (parse_text_of_parse hbase hserver))
  have hdefinition : (SchemaSource.mk base).definition = .ok (urlBelow base front) := by
    have hfile : (SchemaSource.mk base).isFile = false := decide_eq_false (ne_fileScheme hserver)
    rw [SchemaSource.definition, hfile, if_neg Bool.false_ne_true, hagain]
  refine ⟨urlBelow base front, haddress address hbase, below_urlBelow hsettled hslashed, ?_, ⟨base⟩, ?_, hdefinition,
    ?_⟩
  · intro other twin htwin hscheme hauthority hpath
    have htwinSettled := settled_of_parse htwin (hscheme ▸ hserver)
    obtain ⟨twinFront, htwinFront, htwinSlashed, htwinAddress⟩ := ofAddress_eq htwinSettled
    have hsame : twinFront = front :=
      eq_of_closed_pathText htwinFront hfront (by rw [← htwinSlashed, hpath, hslashed])
    rw [htwinAddress other htwin, urlBelow, urlBelow, hscheme, hauthority, hsame]
  · rw [SchemaSource.ofAddress, parseAddress, hbase]
    rfl
  · rw [SchemaSource.location, hdefinition]

/-- An address with credentials, a port, dots, blanks, a query and a fragment. -/
def tenantAddress : String := "\t HTTPS://User:pa:ss@[0:0::1]:44300/x/%2e%2E/tenant a/./b?x=1#top \n"

def tenant : Url where
  scheme := "https"
  authority? := some {
    username := "User"
    password := "pa%3Ass"
    host := .ipv6 [0, 0, 0, 0, 0, 0, 0, 1]
    port? := some 44300 }
  path := .rooted ["tenant%20a", "b"]
  query? := some "x=1"
  fragment? := some "top"

theorem definition_below_tenant : Url.parse (Unicode.trimmed tenantAddress) = .ok tenant ∧
    ∃ source, SchemaSource.ofAddress tenantAddress = .ok source ∧ source.location =
      "https://User:pa%3Ass@[::1]:44300/tenant%20a/b/api/abp/api-definition?includeTypes=true" := by
  have htenant : Url.parse (Unicode.trimmed tenantAddress) = .ok tenant := by decide +kernel
  obtain ⟨url, _, hbelow, _, source, hsource, _, hlocation⟩ := definition_below_address htenant (by decide)
  obtain ⟨authority, hauthority, hurl⟩ := hbelow.authority
  have hseparator : url.separator = authority.text := by
    rw [Url.separator, hurl]
  cases hauthority
  refine ⟨htenant, source, hsource, ?_⟩
  rw [hlocation, Url.text, Url.target, hseparator, hbelow.scheme, hbelow.path, hbelow.query, hbelow.fragment]
  decide +kernel

end Endpoint

end ApiProxy
