import ApiProxy.Proofs.Url.Address
import ApiProxy.Proofs.Url.Domain
import ApiProxy.Proofs.Url.Coding
import ApiProxy.Url.Host

/-! The host of a server is read back from its text: a name as its own ASCII form, and an address from its digits. The
text is printable and holds none of the characters that end a host in a URL. -/

namespace ApiProxy.Url.Host

open Unicode Domain

variable {c : Char} {text : List Char} {host : Host}

/-- Characters that end a host, or what stands in front of it. -/
def endMarks : List Char := ['#', '/', '?', '@', '\\']

/-- A host that is read back from its text, and whose text holds colons in brackets alone. -/
structure Settled (host : Host) : Prop where
  read : ofText host.text.toList = .ok host
  nonempty : host.text.toList ≠ []
  visible : ∀ c ∈ host.text.toList, IsVisible c ∧ c ∉ endMarks
  shape : (∀ c ∈ host.text.toList, c ∉ [':', '[', ']']) ∨
    ∃ inner, host.text.toList = '[' :: (inner ++ [']']) ∧ '[' ∉ inner ∧ ']' ∉ inner

/-! ### Names -/

theorem percentDecode_free (h : '%' ∉ text) : percentDecode text = text.flatMap String.utf8EncodeChar := by
  induction text with
  | nil => rfl
  | cons c text ih =>
      rw [List.mem_cons, not_or] at h
      rw [percentDecode_cons (Ne.symm h.1), ih h.2, List.flatMap_cons]

/-- What the ASCII form of a name is taken for. -/
def ofAscii (domain : List Char) : Except Failure Host :=
  if domain = [] then .error .emptyHost
  else if endsInNumber domain then
    match ipv4? domain with
    | some address => .ok (.ipv4 address)
    | none => .error .invalidIpv4
  else .ok (.name (String.ofList domain))

theorem ofDomain_eq (text : List Char) : ofDomain text =
    match (decode? (percentDecode text)).bind toAscii? with
    | none => .error .invalidDomainName
    | some domain => ofAscii domain := by
  rw [ofDomain]
  cases (decode? (percentDecode text)).bind toAscii? with
  | none => rfl
  | some domain => cases domain <;> rfl

/-- A name that is its own ASCII form is taken for what that is taken for. -/
theorem ofText_of_toAscii? (h : toAscii? text = some text) : ofText text = ofAscii text := by
  have hfree : ∀ mark, Domain.isForbidden mark = true → mark ∉ text := by
    intro mark hmark hmem
    rw [(of_toAscii? h mark hmem).2] at hmark
    cases hmark
  have hdomain : ofText text = ofDomain text := by
    rw [ofText.eq_def]
    split
    · exact absurd List.mem_cons_self (hfree '[' rfl)
    · rfl
  rw [hdomain, ofDomain_eq, percentDecode_free (hfree '%' rfl), decode?_encode, Option.bind_some, h]

theorem visible_of_allowed (hascii : c.toNat < asciiEnd) (hallowed : Domain.isForbidden c = false) :
    IsVisible c ∧ c ∉ endMarks ∧ c ∉ [':', '[', ']'] := by
  have hmarks : ∀ mark ∈ endMarks ++ [':', '[', ']'], Domain.isForbidden mark = true :=
    List.all_iff_forall_prop.mp (by decide)
  have hmem : c ∉ endMarks ++ [':', '[', ']'] := by
    intro hmem
    rw [hmarks c hmem] at hallowed
    cases hallowed
  rw [List.mem_append, not_or] at hmem
  simp only [Domain.isForbidden, Bool.or_eq_false_iff, decide_eq_false_iff_not] at hallowed
  rw [asciiEnd] at hascii
  exact ⟨⟨by omega, by omega⟩, hmem⟩

theorem settled_of_ascii (h : toAscii? text = some text) (hhost : ofAscii text = .ok host)
    (htext : host.text.toList = text) : Settled host := by
  have hvisible := fun c hc => visible_of_allowed (of_toAscii? h c hc).1 (of_toAscii? h c hc).2
  constructor
  · rw [htext, ofText_of_toAscii? h, hhost]
  · rintro hnil
    rw [ofAscii, if_pos (htext.symm.trans hnil)] at hhost
    cases hhost
  · rw [htext]
    exact fun c hc => ⟨(hvisible c hc).1, (hvisible c hc).2.1⟩
  · left
    rw [htext]
    exact fun c hc => (hvisible c hc).2.2

theorem mem_decimalDigits_of_mem_toDigits {n : Nat} (h : c ∈ Nat.toDigits 10 n) : c ∈ decimalDigits := by
  have hdigits : ∀ digit < 10, Nat.digitChar digit ∈ decimalDigits := by decide
  obtain ⟨digit, hdigit, rfl⟩ := exists_digit_of_mem_toDigits (by decide) h
  exact hdigits digit hdigit

theorem settled_ipv4 {address : Nat} (h : address < 256 ^ 4) : Settled (.ipv4 address) := by
  have hform : toAscii? (ipv4Text address).toList = some (ipv4Text address).toList := by
    rw [toList_ipv4Text]
    apply toAscii?_numeric (by simp [addressBytes])
    intro part hpart c hc
    obtain ⟨byte, _, rfl⟩ := List.mem_map.mp hpart
    exact mem_decimalDigits_of_mem_toDigits hc
  have hnumber := endsInNumber_ipv4Text address
  refine settled_of_ascii hform ?_ rfl
  have hne : (ipv4Text address).toList ≠ [] := by
    intro hnil
    rw [hnil] at hnumber
    cases hnumber
  rw [ofAscii, if_neg hne, if_pos hnumber, ipv4?_ipv4Text h]

/-! ### Addresses in brackets -/

theorem mem_piecesText {numbers : List Nat} (h : c ∈ piecesText numbers) :
    c = ':' ∨ ∃ digit < 16, c = Nat.digitChar digit := by
  rcases mem_joinPieces h with hcolon | ⟨part, hpart, hc⟩
  · exact Or.inl hcolon
  · obtain ⟨number, _, rfl⟩ := List.mem_map.mp hpart
    exact Or.inr (exists_digit_of_mem_toDigits (by decide) hc)

theorem mem_ipv6Text {numbers : List Nat} (h : c ∈ (ipv6Text numbers).toList) :
    c = ':' ∨ ∃ digit < 16, c = Nat.digitChar digit := by
  rw [ipv6Text] at h
  dsimp only at h
  split_ifs at h
  · rw [toList_shown] at h
    exact mem_piecesText h
  · rw [String.toList_append, String.toList_append, toList_shown, toList_shown, List.mem_append, List.mem_append] at h
    rcases h with (h | h) | h
    · exact mem_piecesText h
    · exact Or.inl (by simpa using h)
    · exact mem_piecesText h

theorem visible_ipv6Text {numbers : List Nat} (h : c ∈ (ipv6Text numbers).toList) :
    IsVisible c ∧ c ∉ endMarks ∧ c ≠ '[' ∧ c ≠ ']' := by
  have hdigits : ∀ digit < 16, IsVisible digit.digitChar ∧ digit.digitChar ∉ endMarks ∧
      digit.digitChar ≠ '[' ∧ digit.digitChar ≠ ']' := by decide
  rcases mem_ipv6Text h with rfl | ⟨digit, hdigit, rfl⟩
  · decide
  · exact hdigits digit hdigit

theorem toList_text_ipv6 (numbers : List Nat) :
    (Host.ipv6 numbers).text.toList = '[' :: ((ipv6Text numbers).toList ++ [']']) := by
  rw [Host.text, String.toList_append, String.toList_append]
  rfl

theorem settled_ipv6 {numbers : List Nat} (hlength : numbers.length = 8) (h : ∀ n ∈ numbers, n < 65536) :
    Settled (.ipv6 numbers) := by
  constructor
  · rw [toList_text_ipv6, ofText, ofBracketed, List.reverse_append]
    simp only [List.reverse_singleton, List.cons_append, List.nil_append, List.reverse_reverse,
      ipv6?_ipv6Text hlength h]
  · rw [toList_text_ipv6]
    exact List.cons_ne_nil _ _
  · intro c hc
    rw [toList_text_ipv6, List.mem_cons, List.mem_append, List.mem_singleton] at hc
    rcases hc with rfl | hc | rfl
    · decide
    · obtain ⟨hvisible, hmarks, _⟩ := visible_ipv6Text hc
      exact ⟨hvisible, hmarks⟩
    · decide
  · refine Or.inr ⟨(ipv6Text numbers).toList, toList_text_ipv6 numbers, fun hc => ?_, fun hc => ?_⟩
    · exact (visible_ipv6Text hc).2.2.1 rfl
    · exact (visible_ipv6Text hc).2.2.2 rfl

theorem settled_of_ofBracketed (h : ofBracketed text = .ok host) : Settled host := by
  rw [ofBracketed] at h
  split at h
  · split at h
    · next hnumbers =>
        cases h
        obtain ⟨hlength, hbounds⟩ := ipv6?_bounds hnumbers
        exact settled_ipv6 hlength hbounds
    · cases h
  · cases h

theorem settled_of_ofDomain (h : ofDomain text = .ok host) : Settled host := by
  rw [ofDomain_eq] at h
  split at h
  · cases h
  · next domain hdomain =>
      obtain ⟨name, _, hascii⟩ := Option.bind_eq_some_iff.mp hdomain
      have hagain := toAscii?_toAscii? hascii
      have hhost := h
      rw [ofAscii] at h
      split_ifs at h
      · split at h
        · next haddress =>
            cases h
            exact settled_ipv4 (ipv4?_lt haddress)
        · cases h
      · cases h
        exact settled_of_ascii hagain hhost String.toList_ofList

/-- Every host that is read for a server is read back. -/
theorem settled_of_ofText (h : ofText text = .ok host) : Settled host := by
  rw [ofText.eq_def] at h
  split at h
  · exact settled_of_ofBracketed h
  · exact settled_of_ofDomain h

end ApiProxy.Url.Host
