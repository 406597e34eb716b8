import ApiProxy.Proofs.Json.Records

/-! Other ways to write a value. The members of a record may change places, unknown ones may come in, and fields that
were left out may be written with their defaults; in lists and maps all items and entries stay where they are. What
may come in is limited by the brackets that may still be opened at its place. -/

namespace ApiProxy.Json

variable {α : Type}

/-- Nothing in the value is broken, out of range or left unpaired, and at most so many of its brackets are open at
once. -/
inductive Tree.Sound : Nat → Tree → Prop where
  | null (room : Nat) : Sound room .null
  | boolean (room : Nat) (value : Bool) : Sound room (.boolean value)
  | number (room : Nat) (value : Number) : Sound room (.number (some value))
  | text (room : Nat) (value : String) : Sound room (.text (some value))
  | array {room : Nat} {items : List Tree} (h : ∀ item ∈ items, Sound room item) :
      Sound (room + 1) (.array items .closed)
  | object {room : Nat} {members : List (Key × Tree)} (hkeys : ∀ member ∈ members, ∃ name, member.1 = .text (some name))
      (h : ∀ member ∈ members, Sound room member.2) : Sound (room + 1) (.object members .closed)

/-- How a value may be written in the place of another, by the brackets that may still be opened there. -/
abbrev Variation := Nat → Tree → Tree → Prop

/-- How a field of a record is written: its name, the ways to write its value, and the value it has if it is left
out. -/
structure FieldLayout where
  name : String
  varies : Variation := fun _ tree other => tree = other
  default? : Option Tree := none

abbrev Layout := List FieldLayout

/-- Items that stand for the fields of a record in their order. -/
inductive ItemsVary (room : Nat) : Layout → List Tree → List Tree → Prop where
  | nil (layout : Layout) : ItemsVary room layout [] []
  | cons {field : FieldLayout} {layout : Layout} {item other : Tree} {items others : List Tree}
      (h : field.varies room item other) (hitems : ItemsVary room layout items others) :
      ItemsVary room (field :: layout) (item :: items) (other :: others)

/-- Ways to write a record. Each step changes the member in front, which may be any once they are reordered. -/
inductive RecordVaries (layout : Layout) (room : Nat) : Tree → Tree → Prop where
  | refl (tree : Tree) : RecordVaries layout room tree tree
  | trans {tree between other : Tree} (h : RecordVaries layout room tree between)
      (hother : RecordVaries layout room between other) : RecordVaries layout room tree other
  | reorder {members others : List (Key × Tree)} {ending : Ending} (h : members.Perm others) :
      RecordVaries layout room (.object members ending) (.object others ending)
  | addUnknown {name : String} {value : Tree} {members : List (Key × Tree)} {ending : Ending}
      (hname : name ∉ layout.map FieldLayout.name) (hvalue : value.Sound (room - 1)) :
      RecordVaries layout room (.object members ending) (.object ((.text (some name), value) :: members) ending)
  | writeDefault {field : FieldLayout} {default : Tree} {members : List (Key × Tree)} {ending : Ending}
      (hfield : field ∈ layout) (hdefault : field.default? = some default)
      (homitted : ∀ member ∈ members, member.1 ≠ .text (some field.name)) :
      RecordVaries layout room (.object members ending)
        (.object ((.text (some field.name), default) :: members) ending)
  | vary {field : FieldLayout} {value other : Tree} {members : List (Key × Tree)} {ending : Ending}
      (hfield : field ∈ layout) (h : field.varies (room - 1) value other) :
      RecordVaries layout room (.object ((.text (some field.name), value) :: members) ending)
        (.object ((.text (some field.name), other) :: members) ending)
  | varyItems {items others : List Tree} {ending : Ending} (h : ItemsVary (room - 1) layout items others) :
      RecordVaries layout room (.array items ending) (.array others ending)

/-- Items that vary one by one. -/
inductive ListVaries (vary : Variation) (room : Nat) : Tree → Tree → Prop where
  | refl (tree : Tree) : ListVaries vary room tree tree
  | items {items others : List Tree} {ending : Ending} (h : List.Forall₂ (vary (room - 1)) items others) :
      ListVaries vary room (.array items ending) (.array others ending)

/-- Entries that keep their keys and vary one by one. -/
inductive MapVaries (vary : Variation) (room : Nat) : Tree → Tree → Prop where
  | refl (tree : Tree) : MapVaries vary room tree tree
  | entries {members others : List (Key × Tree)} {ending : Ending}
      (h : List.Forall₂ (fun member other => member.1 = other.1 ∧ vary (room - 1) member.2 other.2) members others) :
      MapVaries vary room (.object members ending) (.object others ending)

theorem ItemsVary.length_eq {room : Nat} {layout : Layout} {items others : List Tree}
    (h : ItemsVary room layout items others) : items.length = others.length := by
  induction h with
  | nil => rfl
  | cons _ _ ih => rw [List.length_cons, List.length_cons, ih]

/-! ### Lists and maps -/

/-- A value that is decoded is decoded alike when it is written in another way. -/
def Respects (decode : Decoder α) (vary : Tree → Tree → Prop) : Prop :=
  ∀ ⦃tree other : Tree⦄ ⦃value : α⦄, vary tree other → decode tree = .ok value → decode other = .ok value

theorem respects_eq (decode : Decoder α) : Respects decode fun tree other => tree = other :=
  fun _ _ _ heq h => heq ▸ h

theorem mapM_of_forall₂ {decode : Decoder α} {vary : Tree → Tree → Prop} (hdecode : Respects decode vary)
    {items others : List Tree} (h : List.Forall₂ vary items others) {values : List α}
    (hitems : items.mapM decode = .ok values) : others.mapM decode = .ok values := by
  rw [Outcome.mapM_eq_ok_iff] at hitems ⊢
  induction h generalizing values with
  | nil => exact hitems
  | cons hitem _ ih =>
      cases hitems with
      | cons hvalue hvalues => exact .cons (hdecode hitem hvalue) (ih hvalues)

theorem respects_listVaries {decode : Decoder α} {vary : Variation} {room : Nat}
    (hdecode : Respects decode (vary (room - 1))) : Respects (decodeList decode) (ListVaries vary room) := by
  intro tree other values h htree
  cases h with
  | refl => exact htree
  | items h =>
      obtain ⟨found, hfound, htree⟩ := Outcome.bind_eq_ok_iff.mp htree
      exact Outcome.bind_eq_ok_iff.mpr ⟨found, mapM_of_forall₂ hdecode h hfound, htree⟩

theorem decodeEntries_of_forall₂ {decode : Decoder α} {vary : Tree → Tree → Prop} (hdecode : Respects decode vary)
    {members others : List (Key × Tree)}
    (h : List.Forall₂ (fun member other => member.1 = other.1 ∧ vary member.2 other.2) members others)
    {entries : List (String × α)} (hmembers : decodeEntries decode members = .ok entries) :
    decodeEntries decode others = .ok entries := by
  induction h generalizing entries with
  | nil => exact hmembers
  | @cons member other members others hmember _ ih =>
      obtain ⟨key, tree⟩ := member
      obtain ⟨otherKey, otherTree⟩ := other
      obtain ⟨rfl, htree⟩ := hmember
      obtain ⟨name, hname, hmembers⟩ := Outcome.bind_eq_ok_iff.mp hmembers
      obtain ⟨value, hvalue, hmembers⟩ := Outcome.bind_eq_ok_iff.mp hmembers
      obtain ⟨later, hlater, hmembers⟩ := Outcome.bind_eq_ok_iff.mp hmembers
      rw [decodeEntries, hname, Outcome.ok_bind, hdecode htree hvalue, Outcome.ok_bind, ih hlater]
      exact hmembers

/-! ### Values that are skipped or kept aside -/

theorem skipItems_of_forall {items : List Tree} (h : ∀ item ∈ items, item.skip = .ok ()) :
    skipItems items = .ok () := by
  induction items with
  | nil => rfl
  | cons item items ih =>
      obtain ⟨hitem, hitems⟩ := List.forall_mem_cons.mp h
      rw [skipItems, hitem, Outcome.ok_bind, ih hitems]

theorem skipMembers_of_forall {members : List (Key × Tree)}
    (hkeys : ∀ member ∈ members, ∃ name, member.1 = .text (some name))
    (h : ∀ member ∈ members, member.2.skip = .ok ()) : skipMembers members = .ok () := by
  induction members with
  | nil => rfl
  | cons member members ih =>
      obtain ⟨key, value⟩ := member
      obtain ⟨⟨name, rfl⟩, hnamed⟩ := List.forall_mem_cons.mp hkeys
      obtain ⟨hvalue, hmembers⟩ := List.forall_mem_cons.mp h
      rw [skipMembers]
      dsimp only at hvalue ⊢
      rw [hvalue, Outcome.ok_bind, ih hnamed hmembers]

theorem Tree.Sound.skip_eq_ok {room : Nat} {tree : Tree} (h : tree.Sound room) : tree.skip = .ok () := by
  induction h with
  | array _ ih =>
      rw [skip, skipItems_of_forall ih]
      rfl
  | object hkeys _ ih =>
      rw [skip, skipMembers_of_forall hkeys ih]
      rfl
  | null | boolean | number | text => rfl

theorem keepItems_eq_ok_iff {room : Nat} {items : List Tree} :
    keepItems room items = .ok () ↔ ∀ item ∈ items, item.keep room = .ok () := by
  induction items with
  | nil => simp [keepItems]
  | cons item items ih => rw [keepItems, Outcome.check_bind_eq_ok_iff, List.forall_mem_cons, ih]

/-- A member that is kept aside has a name, and its value is kept aside. -/
def Keeps (room : Nat) (member : Key × Tree) : Prop :=
  (∃ name, member.1 = .text (some name)) ∧ member.2.keep room = .ok ()

theorem decode_key_eq_ok_iff {key : Key} {name : String} : key.decode = .ok name ↔ key = .text (some name) := by
  constructor
  · intro h
    rw [Key.decode.eq_def] at h
    split at h <;> cases h
    rfl
  · rintro rfl
    rfl

theorem keepMembers_eq_ok_iff {room : Nat} {members : List (Key × Tree)} :
    keepMembers room members = .ok () ↔ ∀ member ∈ members, Keeps room member := by
  induction members with
  | nil => simp [keepMembers]
  | cons member members ih =>
      rw [keepMembers, Outcome.bind_eq_ok_iff, List.forall_mem_cons, ← ih, Keeps]
      simp only [decode_key_eq_ok_iff, Outcome.check_bind_eq_ok_iff]
      tauto

theorem keep_array_eq_ok_iff {room : Nat} {items : List Tree} {ending : Ending} :
    (Tree.array items ending).keep room = .ok () ↔
      0 < room ∧ (∀ item ∈ items, item.keep (room - 1) = .ok ()) ∧ ending = .closed := by
  rw [Tree.keep]
  cases room with
  | zero => simp [fail, Outcome.check_bind_eq_ok_iff]
  | succ room =>
      rw [if_neg (Nat.succ_ne_zero room), ← keepItems_eq_ok_iff, ← check_eq_ok_iff]
      simp [Outcome.check_bind_eq_ok_iff]

theorem keep_object_eq_ok_iff {room : Nat} {members : List (Key × Tree)} {ending : Ending} :
    (Tree.object members ending).keep room = .ok () ↔
      0 < room ∧ (∀ member ∈ members, Keeps (room - 1) member) ∧ ending = .closed := by
  rw [Tree.keep]
  cases room with
  | zero => simp [fail, Outcome.check_bind_eq_ok_iff]
  | succ room =>
      rw [if_neg (Nat.succ_ne_zero room), ← keepMembers_eq_ok_iff, ← check_eq_ok_iff]
      simp [Outcome.check_bind_eq_ok_iff]

theorem Tree.Sound.keep_eq_ok {room : Nat} {tree : Tree} (h : tree.Sound room) : tree.keep room = .ok () := by
  induction h with
  | @array room _ _ ih => exact keep_array_eq_ok_iff.mpr ⟨Nat.succ_pos room, ih, rfl⟩
  | @object room _ hkeys _ ih =>
      exact keep_object_eq_ok_iff.mpr ⟨Nat.succ_pos room, fun member h => ⟨hkeys member h, ih member h⟩, rfl⟩
  | null | boolean | number | text => rfl

/-- A value that is kept aside is still kept aside when it is written in another way. -/
def StaysKept (vary : Tree → Tree → Prop) (room : Nat) : Prop :=
  ∀ ⦃tree other : Tree⦄, vary tree other → tree.keep room = .ok () → other.keep room = .ok ()

theorem staysKept_eq (room : Nat) : StaysKept (fun tree other => tree = other) room := fun _ _ heq h => heq ▸ h

theorem forall_keep_of_forall₂ {vary : Tree → Tree → Prop} {room : Nat} (hvary : StaysKept vary room)
    {items others : List Tree} (h : List.Forall₂ vary items others) (hitems : ∀ item ∈ items, item.keep room = .ok ()) :
    ∀ other ∈ others, other.keep room = .ok () := by
  intro other hother
  obtain ⟨item, hitem, hvaries⟩ := exists_left_of_forall₂ h hother
  exact hvary hvaries (hitems item hitem)

theorem staysKept_listVaries {vary : Variation} {room : Nat} (hvary : StaysKept (vary (room - 1)) (room - 1)) :
    StaysKept (ListVaries vary room) room := by
  intro tree other h htree
  cases h with
  | refl => exact htree
  | items h =>
      obtain ⟨hroom, hitems, hending⟩ := keep_array_eq_ok_iff.mp htree
      exact keep_array_eq_ok_iff.mpr ⟨hroom, forall_keep_of_forall₂ hvary h hitems, hending⟩

/-- However the field is written, its value is kept aside, and so is its default. -/
def FieldLayout.StaysKept (field : FieldLayout) (room : Nat) : Prop :=
  Json.StaysKept (field.varies room) room ∧ ∀ default, field.default? = some default → default.keep room = .ok ()

def Layout.StaysKept (layout : Layout) (room : Nat) : Prop := ∀ field ∈ layout, field.StaysKept room

theorem FieldLayout.StaysKept.plain (name : String) (room : Nat) : FieldLayout.StaysKept { name := name } room :=
  ⟨staysKept_eq room, fun _ h => by cases h⟩

theorem FieldLayout.StaysKept.withDefault (name : String) {vary : Variation} {default : Tree} {room : Nat}
    (hvary : Json.StaysKept (vary room) room) (hdefault : default.keep room = .ok ()) :
    FieldLayout.StaysKept { name := name, varies := vary, default? := some default } room :=
  ⟨hvary, fun _ h => by cases h; exact hdefault⟩

theorem ItemsVary.forall_keep {room : Nat} {layout : Layout} {items others : List Tree}
    (h : ItemsVary room layout items others) (hlayout : layout.StaysKept room)
    (hitems : ∀ item ∈ items, item.keep room = .ok ()) : ∀ other ∈ others, other.keep room = .ok () := by
  induction h with
  | nil => exact hitems
  | cons h _ ih =>
      obtain ⟨hfield, hfields⟩ := List.forall_mem_cons.mp hlayout
      obtain ⟨hitem, hitems⟩ := List.forall_mem_cons.mp hitems
      exact List.forall_mem_cons.mpr ⟨hfield.1 h hitem, ih hfields hitems⟩

theorem staysKept_recordVaries {layout : Layout} {room : Nat} (hlayout : layout.StaysKept (room - 1)) :
    StaysKept (RecordVaries layout room) room := by
  intro tree other h htree
  induction h with
  | refl => exact htree
  | trans _ _ ih ihother => exact ihother (ih htree)
  | reorder h =>
      obtain ⟨hroom, hmembers, hending⟩ := keep_object_eq_ok_iff.mp htree
      exact keep_object_eq_ok_iff.mpr ⟨hroom, fun member hmember => hmembers member (h.mem_iff.mpr hmember), hending⟩
  | addUnknown _ hvalue =>
      obtain ⟨hroom, hmembers, hending⟩ := keep_object_eq_ok_iff.mp htree
      refine keep_object_eq_ok_iff.mpr ⟨hroom, List.forall_mem_cons.mpr ⟨⟨⟨_, rfl⟩, ?_⟩, hmembers⟩, hending⟩
      exact hvalue.keep_eq_ok
  | writeDefault hfield hdefault =>
      obtain ⟨hroom, hmembers, hending⟩ := keep_object_eq_ok_iff.mp htree
      refine keep_object_eq_ok_iff.mpr ⟨hroom, List.forall_mem_cons.mpr ⟨⟨⟨_, rfl⟩, ?_⟩, hmembers⟩, hending⟩
      exact (hlayout _ hfield).2 _ hdefault
  | vary hfield h =>
      obtain ⟨hroom, hmembers, hending⟩ := keep_object_eq_ok_iff.mp htree
      obtain ⟨hmember, hmembers⟩ := List.forall_mem_cons.mp hmembers
      refine keep_object_eq_ok_iff.mpr ⟨hroom, List.forall_mem_cons.mpr ⟨⟨⟨_, rfl⟩, ?_⟩, hmembers⟩, hending⟩
      exact (hlayout _ hfield).1 h hmember.2
  | varyItems h =>
      obtain ⟨hroom, hitems, hending⟩ := keep_array_eq_ok_iff.mp htree
      exact keep_array_eq_ok_iff.mpr ⟨hroom, h.forall_keep hlayout hitems, hending⟩

end ApiProxy.Json
