import ApiProxy.Json.Decoding
import ApiProxy.Proofs.Json.Printed
import ApiProxy.Proofs.Outcome

/-! Decoding what was printed. A value reads as a result if a document can hold it and the decoder takes its tree for
the result; lists and records do so if their parts do. -/

namespace ApiProxy.Json

variable {α Parts : Type}

/-- A document can hold the value, and the decoder takes it for the result. -/
structure Value.ReadsAs (value : Value) (decode : Decoder α) (result : α) : Prop where
  fits : value.Fits
  decoded : decode value.tree = .ok result

@[simp]
theorem decodeText_tree (expected text : String) : decodeText expected (Value.text text).tree = .ok text := rfl

@[simp]
theorem decodeBoolean_tree (value : Bool) : decodeBoolean (Value.boolean value).tree = .ok value := rfl

@[simp]
theorem decodeOptional_text (expected text : String) :
    decodeOptional (decodeText expected) (Value.text text).tree = .ok (some text) := rfl

theorem readsAs_choice {known : List String} {ofName? : String → Option α} {name : String} {value : α}
    (h : ofName? name = some value) : (Value.text name).ReadsAs (decodeEnumeration known ofName?) value := by
  refine ⟨.text name, ?_⟩
  rw [Value.tree, decodeEnumeration, decodeChoice, h]

theorem mapM_itemTrees {decode : Decoder α} {encode : α → Value} {values : List α}
    (h : ∀ value ∈ values, (encode value).ReadsAs decode value) :
    (itemTrees (values.map encode)).mapM decode = .ok values := by
  induction values with
  | nil => rfl
  | cons value values ih =>
      obtain ⟨hvalue, hvalues⟩ := List.forall_mem_cons.mp h
      rw [List.map_cons, itemTrees, List.mapM_cons, hvalue.decoded, ih hvalues]
      rfl

theorem readsAs_list {decode : Decoder α} {encode : α → Value} {values : List α}
    (h : ∀ value ∈ values, (encode value).ReadsAs decode value) :
    (Value.array (values.map encode)).ReadsAs (decodeList decode) values := by
  constructor
  · refine .array fun item hitem => ?_
    obtain ⟨value, hvalue, rfl⟩ := List.mem_map.mp hitem
    exact (h value hvalue).fits
  · rw [Value.tree, decodeList, mapM_itemTrees h]
    rfl

/-- The members of a map, each with its key. -/
theorem decodeEntries_memberTrees {decode : Decoder α} {encode : α → Value} {entries : List (String × α)}
    (h : ∀ entry ∈ entries, (encode entry.2).ReadsAs decode entry.2) :
    decodeEntries decode (memberTrees (entries.map fun entry => (entry.1, encode entry.2))) = .ok entries := by
  induction entries with
  | nil => rfl
  | cons entry entries ih =>
      obtain ⟨hentry, hentries⟩ := List.forall_mem_cons.mp h
      rw [List.map_cons, memberTrees, decodeEntries, hentry.decoded, ih hentries]
      rfl

theorem exists_tree_of_decodeEntries {decode : Decoder α} {members : List (Key × Tree)} {entries : List (String × α)}
    (h : decodeEntries decode members = .ok entries) {entry : String × α} (hentry : entry ∈ entries) :
    ∃ tree, decode tree = .ok entry.2 := by
  induction members generalizing entries with
  | nil =>
      cases h
      cases hentry
  | cons member members ih =>
      obtain ⟨key, tree⟩ := member
      obtain ⟨name, -, h⟩ := Outcome.bind_eq_ok_iff.mp h
      obtain ⟨value, hvalue, h⟩ := Outcome.bind_eq_ok_iff.mp h
      obtain ⟨others, hothers, h⟩ := Outcome.bind_eq_ok_iff.mp h
      cases h
      rcases List.mem_cons.mp hentry with rfl | hmem
      · exact ⟨tree, hvalue⟩
      · exact ih hothers hmem

/-! ### Values that are kept aside -/

theorem keepItems_itemTrees {room : Nat} {encode : α → Value} {values : List α}
    (h : ∀ value ∈ values, (encode value).tree.keep room = .ok ()) :
    keepItems room (itemTrees (values.map encode)) = .ok () := by
  induction values with
  | nil => rfl
  | cons value values ih =>
      obtain ⟨hvalue, hvalues⟩ := List.forall_mem_cons.mp h
      rw [List.map_cons, itemTrees, keepItems, hvalue]
      exact ih hvalues

theorem keep_array {room : Nat} {encode : α → Value} {values : List α}
    (h : ∀ value ∈ values, (encode value).tree.keep room = .ok ()) :
    (Value.array (values.map encode)).tree.keep (room + 1) = .ok () := by
  rw [Value.tree, Tree.keep, if_neg (Nat.succ_ne_zero room), Nat.add_sub_cancel, keepItems_itemTrees h]
  rfl

/-! ### Records -/

theorem unexpected_ne_ok (tree : Tree) (expected : String) (value : α) : unexpected tree expected ≠ .ok value := by
  intro h
  rw [unexpected] at h
  split at h <;> cases h

theorem check_eq_ok_iff {ending : Ending} : ending.check = .ok () ↔ ending = .closed := by
  cases ending <;> simp [Ending.check, fail]

@[simp]
theorem once_none (name : String) (value : α) : once none name (.ok value) = .ok (some value) := rfl

namespace RecordForm

variable {form : RecordForm Parts α} {mode : Mode}

@[simp]
theorem takeMembers_nil (parts : Parts) : form.takeMembers parts (memberTrees []) = .ok parts := rfl

theorem takeMembers_cons (parts : Parts) (name : String) (value : Value) (members : List (String × Value)) :
    form.takeMembers parts (memberTrees ((name, value) :: members)) =
      form.take parts name value.tree >>= fun parts => form.takeMembers parts (memberTrees members) := rfl

theorem readsAs (parts : Parts) {members : List (String × Value)} {value : α}
    (hfits : ∀ member ∈ members, member.2.Fits)
    (htake : form.takeMembers form.start (memberTrees members) = .ok parts)
    (hfinish : form.finish parts = .ok value) : (Value.object members).ReadsAs (form.decode mode) value := by
  refine ⟨.object hfits, ?_⟩
  show form.ofMembers (memberTrees members) .closed = _
  rw [ofMembers, htake, Outcome.ok_bind, hfinish]
  rfl

theorem decode_object_eq_ok_iff {members : List (Key × Tree)} {ending : Ending} {value : α} :
    form.decode mode (.object members ending) = .ok value ↔
      ∃ parts, form.takeMembers form.start members = .ok parts ∧ ending = .closed ∧ form.finish parts = .ok value := by
  rw [decode, ofMembers, Outcome.bind_eq_ok_iff]
  refine exists_congr fun parts => and_congr_right fun _ => ?_
  rw [Outcome.check_bind_eq_ok_iff, check_eq_ok_iff]
  cases form.finish parts <;> simp [objectTo]

theorem decode_array_eq_ok_iff {items : List Tree} {ending : Ending} {value : α} :
    form.decode mode (.array items ending) = .ok value ↔
      ∃ parts, form.takeItems form.start (form.fields.zip items) = .ok parts ∧ items.length ≤ form.fields.length ∧
        ending = .closed ∧ form.finish parts = .ok value := by
  rw [decode, ofItems, Outcome.bind_eq_ok_iff]
  refine exists_congr fun parts => and_congr_right fun _ => ?_
  dsimp only
  by_cases hlong : items.length > form.fields.length
  · rw [if_pos hlong]
    refine iff_of_false ?_ fun h => Nat.not_le.mpr hlong h.1
    cases mode <;> exact fun h => by cases h
  · have hlength : items.length ≤ form.fields.length := Nat.not_lt.mp hlong
    rw [if_neg hlong, ← check_eq_ok_iff]
    show (ending.check >>= fun _ => _) = _ ↔ _
    rw [Outcome.check_bind_eq_ok_iff]
    cases form.finish parts <;> simp [objectTo, hlength]

/-- A record stands between brackets that are closed again. -/
theorem closed_of_decode {tree : Tree} {value : α} (h : form.decode mode tree = .ok value) :
    (∃ members, tree = .object members .closed) ∨ ∃ items, tree = .array items .closed := by
  have hcases := h
  rw [decode.eq_def] at hcases
  split at hcases
  next members ending =>
    obtain ⟨-, -, rfl, -⟩ := decode_object_eq_ok_iff.mp h
    exact Or.inl ⟨members, rfl⟩
  next items ending =>
    obtain ⟨-, -, -, rfl, -⟩ := decode_array_eq_ok_iff.mp h
    exact Or.inr ⟨items, rfl⟩
  next => exact absurd hcases (unexpected_ne_ok _ _ _)

section Invariant

variable {P : Parts → Prop} (hstep : ∀ parts name tree next, P parts → form.take parts name tree = .ok next → P next)
include hstep

theorem takeMembers_invariant {members : List (Key × Tree)} {parts last : Parts} (hparts : P parts)
    (h : form.takeMembers parts members = .ok last) : P last := by
  induction members generalizing parts with
  | nil =>
      cases h
      exact hparts
  | cons member members ih =>
      obtain ⟨name, -, h⟩ := Outcome.bind_eq_ok_iff.mp h
      obtain ⟨next, hnext, h⟩ := Outcome.bind_eq_ok_iff.mp h
      exact ih (hstep parts name member.2 next hparts hnext) h

theorem takeItems_invariant {items : List (String × Tree)} {parts last : Parts} (hparts : P parts)
    (h : form.takeItems parts items = .ok last) : P last := by
  induction items generalizing parts with
  | nil =>
      cases h
      exact hparts
  | cons item items ih =>
      obtain ⟨next, hnext, h⟩ := Outcome.bind_eq_ok_iff.mp h
      exact ih (hstep parts item.1 item.2 next hparts hnext) h

/-- What holds of the parts at first and stays true with every field holds of the parts of a record that is read. -/
theorem exists_parts_of_decode (hstart : P form.start) {tree : Tree} {value : α}
    (h : form.decode mode tree = .ok value) : ∃ parts, P parts ∧ form.finish parts = .ok value := by
  rcases closed_of_decode h with ⟨members, rfl⟩ | ⟨items, rfl⟩
  · obtain ⟨parts, hparts, -, hfinish⟩ := decode_object_eq_ok_iff.mp h
    exact ⟨parts, takeMembers_invariant hstep hstart hparts, hfinish⟩
  · obtain ⟨parts, hparts, -, -, hfinish⟩ := decode_array_eq_ok_iff.mp h
    exact ⟨parts, takeItems_invariant hstep hstart hparts, hfinish⟩

end Invariant

theorem exists_finish_of_decode {tree : Tree} {value : α} (h : form.decode mode tree = .ok value) :
    ∃ parts, form.finish parts = .ok value := by
  obtain ⟨parts, -, hfinish⟩ := exists_parts_of_decode (P := fun _ => True) (fun _ _ _ _ _ _ => trivial) trivial h
  exact ⟨parts, hfinish⟩

end RecordForm

end ApiProxy.Json
