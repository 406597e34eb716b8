import ApiProxy.Proofs.Url.Host
import ApiProxy.Url.Parser

/-! The authority of a server is read back from its text. The credentials are encoded, so that the last sign before the
host is the one that ends them and the first colon in them is the one in front of the password; the host keeps its
colons in brackets; and the port is not the one that the scheme stands for. -/

namespace ApiProxy.Url

variable {c : Char} {scheme : String} {text front back : List Char} {authority : Authority}

/-! ### Cutting -/

theorem cutCredentials_append (front : List Char) (h : '@' ∉ back) :
    cutCredentials (front ++ '@' :: back) = (some front, back) := by
  have hback := ne_of_notMem (h ∘ List.mem_reverse.mp)
  rw [cutCredentials, List.reverse_append, List.reverse_cons, List.append_assoc, List.span_eq_takeWhile_dropWhile,
    List.takeWhile_append_of_pos hback, List.dropWhile_append_of_pos hback]
  simp

theorem cutCredentials_of_notMem (h : '@' ∉ text) : cutCredentials text = (none, text) := by
  have htext := ne_of_notMem (h ∘ List.mem_reverse.mp)
  rw [cutCredentials, List.span_eq_takeWhile_dropWhile, List.dropWhile_eq_nil_iff.mpr htext]

theorem cutPort_append (h : ∀ c ∈ front, c ∉ [':', '[', ']']) (back : List Char) :
    cutPort false (front ++ back) = (front ++ (cutPort false back).1, (cutPort false back).2) := by
  induction front with
  | nil => rfl
  | cons c front ih =>
      rw [List.forall_mem_cons] at h
      simp only [List.mem_cons, List.not_mem_nil, or_false, not_or] at h
      rw [List.cons_append, cutPort]
      simp [h.1, ih fun d hd => by simpa using h.2 d hd]

theorem cutPort_bracketed (hopening : '[' ∉ front) (hclosing : ']' ∉ front) (back : List Char) :
    cutPort true (front ++ ']' :: back) = (front ++ ']' :: (cutPort false back).1, (cutPort false back).2) := by
  induction front with
  | nil =>
      rw [List.nil_append, cutPort]
      rfl
  | cons c front ih =>
      rw [List.mem_cons, not_or] at hopening hclosing
      rw [List.cons_append, cutPort]
      simp [Ne.symm hopening.1, Ne.symm hclosing.1, ih hopening.2 hclosing.2]

/-- The colons of a host are not taken for the one in front of its port. -/
theorem Host.Settled.cutPort_text {host : Host} (h : host.Settled) (back : List Char) :
    cutPort false (host.text.toList ++ back) =
      (host.text.toList ++ (cutPort false back).1, (cutPort false back).2) := by
  rcases h.shape with hplain | ⟨inner, htext, hopening, hclosing⟩
  · exact cutPort_append hplain back
  · rw [htext, List.cons_append, List.append_assoc, cutPort]
    simp [cutPort_bracketed hopening hclosing]

/-! ### Ports -/

theorem foldl_digits (digits : List Char) (value : Nat) :
    digits.foldl (fun port c => port * 10 + (c.toNat - 48)) value = Nat.ofDigitChars 10 digits value := by
  rw [Nat.ofDigitChars]
  congr 1
  funext value c
  rw [Nat.mul_comm]
  rfl

theorem portOf_eq (digits : List Char) : portOf scheme digits =
    if ¬digits.all Char.isDigit ∨ 65535 < Nat.ofDigitChars 10 digits 0 then .error .invalidPort
    else if digits = [] ∨ defaultPort? scheme = some (Nat.ofDigitChars 10 digits 0) then .ok none
    else .ok (some (Nat.ofDigitChars 10 digits 0)) := by
  rw [portOf, foldl_digits]
  grind

theorem portOf_spec {digits : List Char} {port : Nat} (h : portOf scheme digits = .ok (some port)) :
    port ≤ 65535 ∧ defaultPort? scheme ≠ some port := by
  rw [portOf_eq] at h
  split_ifs at h with hbad hnone
  · cases h
  · rw [not_or] at hbad hnone
    cases h
    exact ⟨Nat.not_lt.mp hbad.2, hnone.2⟩

theorem portOf_toDigits {port : Nat} (hport : port ≤ 65535) (hdefault : defaultPort? scheme ≠ some port) :
    portOf scheme (Nat.toDigits 10 port) = .ok (some port) := by
  have hdigits : (Nat.toDigits 10 port).all Char.isDigit = true :=
    List.all_eq_true.mpr fun _ hc => Nat.isDigit_of_mem_toDigits (by decide) (by decide) hc
  rw [portOf_eq, Nat.ofDigitChars_toDigits (by decide) (by decide), if_neg, if_neg]
  · exact not_or.mpr ⟨Nat.toDigits_ne_nil, hdefault⟩
  · simp [hdigits, hport]

/-- The text of a port behind its colon. -/
def portText : Option Nat → List Char
  | some port => ':' :: Nat.toDigits 10 port
  | none => []

theorem cutPort_portText (port? : Option Nat) :
    cutPort false (portText port?) = ([], port?.map (Nat.toDigits 10)) := by
  cases port? <;> rfl

namespace Authority

/-- An authority that is read back from its text, for a scheme that names servers. -/
structure Settled (scheme : String) (authority : Authority) : Prop where
  username : ∀ c ∈ authority.username.toList, isEncodedInCredentials c = false
  password : ∀ c ∈ authority.password.toList, isEncodedInCredentials c = false
  host : authority.host.Settled
  port : ∀ port, authority.port? = some port → port ≤ 65535 ∧ defaultPort? scheme ≠ some port

/-- An authority as it stands behind its two slashes. -/
def inner (authority : Authority) : List Char :=
  authority.credentialsText.toList ++ (authority.host.text.toList ++ portText authority.port?)

theorem toList_text (authority : Authority) : authority.text.toList = '/' :: '/' :: authority.inner := by
  rw [Authority.text, inner]
  cases authority.port? with
  | none => simp [portText]
  | some port => simp [portText, Nat.toList_repr]

end Authority

section Server

variable {credentials? password? portText? : Option (List Char)} {username place hostText : List Char}

/-- How the authority of a server is put together from what it is cut into. -/
theorem authorityOf_eq (hserver : (defaultPort? scheme).isSome = true)
    (hcredentials : cutCredentials text = (credentials?, place))
    (hnames : cutAt ':' (credentials?.getD []) = (username, password?))
    (hplace : cutPort false place = (hostText, portText?)) :
    authorityOf scheme text = if hostText = [] then .error .emptyHost else
      (Host.ofText hostText).bind fun host => (portOf scheme (portText?.getD [])).map fun port? =>
        { username := credential username, password := credential (password?.getD []), host, port? } := by
  rw [authorityOf]
  simp only [hcredentials, hnames, hplace, hserver]
  cases hostText with
  | nil => rfl
  | cons c rest =>
      cases hhost : Host.ofText (c :: rest) with
      | error failure =>
          simp only [List.isEmpty_cons, Bool.and_false, Bool.false_eq_true, if_false]
          rfl
      | ok host =>
          have hempty : host.isEmpty = false := by
            refine decide_eq_false fun hname => (Host.settled_of_ofText hhost).nonempty ?_
            rw [hname]
            rfl
          simp only [List.isEmpty_cons, Bool.and_false, Bool.false_eq_true, if_false, hempty, Bool.false_and,
            Outcome.ok_bind]
          cases portOf scheme (portText?.getD []) <;> rfl

theorem isEncoded_credential (h : c ∈ (credential text).toList) : isEncodedInCredentials c = false := by
  rw [credential, String.toList_ofList] at h
  exact isEncoded_of_mem_percentEncode sparesCodes_credentials h

theorem settled_of_authorityOf (hserver : (defaultPort? scheme).isSome = true)
    (h : authorityOf scheme text = .ok authority) : authority.Settled scheme := by
  obtain ⟨⟨credentials?, place⟩, hcredentials⟩ : ∃ cut, cutCredentials text = cut := ⟨_, rfl⟩
  obtain ⟨⟨username, password?⟩, hnames⟩ : ∃ cut, cutAt ':' (credentials?.getD []) = cut := ⟨_, rfl⟩
  obtain ⟨⟨hostText, portText?⟩, hplace⟩ : ∃ cut, cutPort false place = cut := ⟨_, rfl⟩
  rw [authorityOf_eq hserver hcredentials hnames hplace] at h
  split_ifs at h
  obtain ⟨host, hhost, h⟩ := Outcome.bind_eq_ok_iff.mp h
  obtain ⟨port?, hport, rfl⟩ := Outcome.map_eq_ok_iff.mp h
  refine ⟨fun c hc => isEncoded_credential hc, fun c hc => isEncoded_credential hc, Host.settled_of_ofText hhost, ?_⟩
  rintro port rfl
  exact portOf_spec hport

end Server

/-! ### Reading back -/

theorem notMem_of_isEncodedInCredentials (h : ∀ c ∈ text, isEncodedInCredentials c = false)
    (hc : isEncodedInCredentials c = true) : c ∉ text := by
  intro hmem
  rw [h c hmem] at hc
  cases hc

theorem mem_portText {port? : Option Nat} (h : c ∈ portText port?) :
    IsVisible c ∧ c ∉ Host.endMarks := by
  have hdigits : ∀ digit < 10, IsVisible digit.digitChar ∧ digit.digitChar ∉ Host.endMarks := by decide
  cases port? with
  | none => cases h
  | some port =>
      rcases List.mem_cons.mp h with rfl | h
      · decide
      · obtain ⟨digit, hdigit, rfl⟩ := exists_digit_of_mem_toDigits (by decide) h
        exact hdigits digit hdigit

namespace Authority.Settled

/-- The place of a server: its host and its port. -/
theorem visible_place (h : authority.Settled scheme)
    (hc : c ∈ authority.host.text.toList ++ portText authority.port?) :
    IsVisible c ∧ c ∉ Host.endMarks := by
  rcases List.mem_append.mp hc with hc | hc
  · exact h.host.visible c hc
  · exact mem_portText hc

theorem cut_credentials (h : authority.Settled scheme) : ∃ credentials? password?,
    cutCredentials authority.inner = (credentials?, authority.host.text.toList ++ portText authority.port?) ∧
    cutAt ':' (credentials?.getD []) = (authority.username.toList, password?) ∧
    password?.getD [] = authority.password.toList := by
  have hsign : '@' ∉ authority.host.text.toList ++ portText authority.port? :=
    fun hc => (h.visible_place hc).2 (by decide)
  have hcolon : ':' ∉ authority.username.toList := notMem_of_isEncodedInCredentials h.username rfl
  rw [inner, credentialsText]
  split_ifs with hnone hpassword
  · simp only [Bool.and_eq_true, String.isEmpty_iff] at hnone
    rw [hnone.1, hnone.2]
    exact ⟨none, none, cutCredentials_of_notMem hsign, rfl, rfl⟩
  · rw [String.isEmpty_iff] at hpassword
    refine ⟨some authority.username.toList, none, ?_, cutAt_of_notMem hcolon, by rw [hpassword]; rfl⟩
    rw [String.toList_append, List.append_assoc]
    exact cutCredentials_append _ hsign
  · refine ⟨some (authority.username.toList ++ ':' :: authority.password.toList), some authority.password.toList, ?_,
      cutAt_append hcolon _, rfl⟩
    rw [← cutCredentials_append _ hsign]
    simp

/-- An authority is read back. -/
theorem authorityOf_inner (h : authority.Settled scheme) (hserver : (defaultPort? scheme).isSome = true) :
    authorityOf scheme authority.inner = .ok authority := by
  obtain ⟨credentials?, password?, hcredentials, hnames, hpassword⟩ := h.cut_credentials
  have hplace := h.host.cutPort_text (portText authority.port?)
  rw [cutPort_portText, List.append_nil] at hplace
  have hport : portOf scheme ((authority.port?.map (Nat.toDigits 10)).getD []) = .ok authority.port? := by
    cases hport : authority.port? with
    | none => rfl
    | some port => exact portOf_toDigits (h.port port hport).1 (h.port port hport).2
  have hcredential : ∀ text : String, (∀ c ∈ text.toList, isEncodedInCredentials c = false) →
      credential text.toList = text := by
    intro text hplain
    rw [credential, percentEncode_of_plain hplain, String.ofList_toList]
  rw [authorityOf_eq hserver hcredentials hnames hplace, if_neg h.host.nonempty, h.host.read, hpassword, hport,
    hcredential _ h.username, hcredential _ h.password]
  rfl

theorem visible_credentialsText (h : authority.Settled scheme) (hc : c ∈ authority.credentialsText.toList) :
    IsVisible c ∧ c ∉ ['#', '/', '?', '\\'] := by
  have hvisible : ∀ {text : String}, (∀ c ∈ text.toList, isEncodedInCredentials c = false) → c ∈ text.toList →
      IsVisible c ∧ c ∉ ['#', '/', '?', '\\'] := by
    intro text hplain hmem
    obtain ⟨hvisible, hmarks⟩ := isVisible_of_credentials (hplain c hmem)
    simp only [List.mem_cons, List.not_mem_nil, or_false, not_or] at hmarks ⊢
    exact ⟨hvisible, hmarks.1, hmarks.2.2.1, hmarks.2.1, hmarks.2.2.2.2.2⟩
  have hcases : c ∈ authority.username.toList ∨ c ∈ authority.password.toList ∨ c = ':' ∨ c = '@' := by
    rw [credentialsText] at hc
    split_ifs at hc
    · cases hc
    all_goals
      simp only [String.toList_append, String.reduceToList, List.mem_append, List.mem_cons, List.not_mem_nil,
        or_false] at hc
      tauto
  rcases hcases with hc | hc | rfl | rfl
  · exact hvisible h.username hc
  · exact hvisible h.password hc
  · decide
  · decide

/-- The text of an authority is printable, and nothing in it ends an authority. -/
theorem visible_inner (h : authority.Settled scheme) (hc : c ∈ authority.inner) :
    IsVisible c ∧ c ∉ ['#', '/', '?', '\\'] := by
  rcases List.mem_append.mp hc with hc | hc
  · exact h.visible_credentialsText hc
  · obtain ⟨hvisible, hmarks⟩ := h.visible_place hc
    simp only [Host.endMarks, List.mem_cons, List.not_mem_nil, or_false, not_or] at hmarks ⊢
    exact ⟨hvisible, hmarks.1, hmarks.2.1, hmarks.2.2.1, hmarks.2.2.2.2⟩

end Authority.Settled

end ApiProxy.Url
