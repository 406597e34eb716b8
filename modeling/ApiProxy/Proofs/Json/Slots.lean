import Mathlib.Data.List.Pairwise
import Mathlib.Tactic.MkIffOfInductiveProp
import ApiProxy.Proofs.Json.Variation

/-! Records whose fields have places of their own. Taking a field fills its place and touches no other, so members of
different names may be taken in any order, and a record is decoded alike however it is written. -/

namespace ApiProxy.Json

variable {Parts α : Type}

/-- The place of one field among the parts of a record. -/
structure Slot (Parts : Type) where
  name : String
  Held : Type
  get : Parts → Option Held
  set : Parts → Option Held → Parts
  decode : Decoder Held
  get_set : ∀ parts held, get (set parts held) = held

namespace Slot

/-- Fills a place that is still empty. -/
def take (slot : Slot Parts) (parts : Parts) (tree : Tree) : Except ReadError Parts := do
  let held ← once (slot.get parts) slot.name (slot.decode tree)
  return slot.set parts held

theorem take_eq_ok_iff {slot : Slot Parts} {parts next : Parts} {tree : Tree} :
    slot.take parts tree = .ok next ↔
      slot.get parts = none ∧ ∃ value, slot.decode tree = .ok value ∧ slot.set parts (some value) = next := by
  rw [take, Outcome.bind_eq_ok_iff]
  cases slot.get parts with
  | some held => simp [once, objectTo]
  | none => simp [once, Outcome.map_eq_ok_iff, pure, Except.pure]

/-- Two fields of different names, of which neither is seen or changed through the place of the other. -/
@[mk_iff]
structure Apart (slot other : Slot Parts) : Prop where
  name : slot.name ≠ other.name
  get_left : ∀ parts held, slot.get (other.set parts held) = slot.get parts
  get_right : ∀ parts held, other.get (slot.set parts held) = other.get parts
  set : ∀ parts held later, slot.set (other.set parts later) held = other.set (slot.set parts held) later

instance : Std.Symm (@Apart Parts) where
  symm _ _ h := ⟨h.name.symm, h.get_right, h.get_left, fun parts held later => (h.set parts later held).symm⟩

/-- The field of the layout is the one that is decoded into this place: it is decoded alike however it is written, and
its default makes no difference where the place is empty. -/
structure Admits (finish : Parts → Except String α) (room : Nat) (slot : Slot Parts) (field : FieldLayout) : Prop where
  name : field.name = slot.name
  respects : Respects slot.decode (field.varies room)
  default : ∀ tree, field.default? = some tree → ∃ value, slot.decode tree = .ok value ∧
    ∀ parts, slot.get parts = none → finish (slot.set parts (some value)) = finish parts

theorem admits_plain {finish : Parts → Except String α} {room : Nat} (slot : Slot Parts) :
    slot.Admits finish room { name := slot.name } :=
  ⟨rfl, respects_eq slot.decode, fun _ h => by cases h⟩

theorem admits_default {finish : Parts → Except String α} {room : Nat} {slot : Slot Parts} {vary : Variation}
    {default : Tree} {value : slot.Held} (hrespects : Respects slot.decode (vary room))
    (hdefault : slot.decode default = .ok value)
    (hfinish : ∀ parts, slot.get parts = none → finish (slot.set parts (some value)) = finish parts) :
    slot.Admits finish room { name := slot.name, varies := vary, default? := some default } :=
  ⟨rfl, hrespects, fun _ h => by cases h; exact ⟨value, hdefault, hfinish⟩⟩

end Slot

namespace RecordForm

/-- Each field of the record has a place of its own, empty at first; all other members are skipped. -/
structure HasSlots (form : RecordForm Parts α) (slots : List (Slot Parts)) : Prop where
  fields : form.fields = slots.map Slot.name
  start : ∀ slot ∈ slots, slot.get form.start = none
  take : ∀ slot ∈ slots, ∀ parts tree, form.take parts slot.name tree = slot.take parts tree
  skip : ∀ name ∉ slots.map Slot.name, ∀ parts tree, form.take parts name tree = tree.skip >>= fun _ => pure parts
  apart : slots.Pairwise Slot.Apart

variable {form : RecordForm Parts α} {slots : List (Slot Parts)}

theorem takeMembers_named (parts : Parts) (name : String) (tree : Tree) (members : List (Key × Tree)) :
    form.takeMembers parts ((.text (some name), tree) :: members) =
      form.take parts name tree >>= fun next => form.takeMembers next members := rfl

namespace HasSlots

variable (hslots : form.HasSlots slots)
include hslots

theorem apart_of_name_ne {slot other : Slot Parts} (hslot : slot ∈ slots) (hother : other ∈ slots)
    (hname : slot.name ≠ other.name) : slot.Apart other :=
  hslots.apart.forall hslot hother fun heq => hname (heq ▸ rfl)

theorem take_skipped {name : String} (hname : name ∉ slots.map Slot.name) {parts next : Parts} {tree : Tree}
    (h : form.take parts name tree = .ok next) : next = parts ∧ ∀ other, form.take other name tree = .ok other := by
  rw [hslots.skip name hname, Outcome.check_bind_eq_ok_iff] at h
  obtain ⟨hskip, hnext⟩ := h
  refine ⟨(Except.ok.inj hnext).symm, fun other => ?_⟩
  rw [hslots.skip name hname, hskip]
  rfl

/-- Taking a field leaves all other places as they are and does not look at them. -/
theorem take_elsewhere {slot : Slot Parts} (hslot : slot ∈ slots) {name : String} (hname : name ≠ slot.name)
    {parts next : Parts} {tree : Tree} (h : form.take parts name tree = .ok next) :
    slot.get next = slot.get parts ∧ ∀ held, form.take (slot.set parts held) name tree = .ok (slot.set next held) := by
  by_cases hknown : name ∈ slots.map Slot.name
  · obtain ⟨other, hother, rfl⟩ := List.mem_map.mp hknown
    have hapart := hslots.apart_of_name_ne hother hslot hname
    rw [hslots.take other hother, Slot.take_eq_ok_iff] at h
    obtain ⟨hempty, value, hvalue, rfl⟩ := h
    refine ⟨hapart.get_right parts (some value), fun held => ?_⟩
    rw [hslots.take other hother, Slot.take_eq_ok_iff]
    exact ⟨(hapart.get_left parts held).trans hempty, value, hvalue, hapart.set parts (some value) held⟩
  · obtain ⟨rfl, hskip⟩ := hslots.take_skipped hknown h
    exact ⟨rfl, fun held => hskip _⟩

/-- Two members may change places. -/
theorem take_swap {first second : String} {parts between last : Parts} {tree other : Tree}
    (hfirst : form.take parts first tree = .ok between) (hsecond : form.take between second other = .ok last) :
    ∃ swapped, form.take parts second other = .ok swapped ∧ form.take swapped first tree = .ok last := by
  by_cases hknown : second ∈ slots.map Slot.name
  · obtain ⟨slot, hslot, rfl⟩ := List.mem_map.mp hknown
    rw [hslots.take slot hslot, Slot.take_eq_ok_iff] at hsecond
    obtain ⟨hempty, value, hvalue, rfl⟩ := hsecond
    have hne : first ≠ slot.name := by
      rintro rfl
      rw [hslots.take slot hslot, Slot.take_eq_ok_iff] at hfirst
      obtain ⟨-, held, -, rfl⟩ := hfirst
      rw [slot.get_set] at hempty
      cases hempty
    obtain ⟨hget, htake⟩ := hslots.take_elsewhere hslot hne hfirst
    refine ⟨slot.set parts (some value), ?_, htake (some value)⟩
    rw [hslots.take slot hslot, Slot.take_eq_ok_iff]
    exact ⟨hget ▸ hempty, value, hvalue, rfl⟩
  · obtain ⟨rfl, hskip⟩ := hslots.take_skipped hknown hsecond
    exact ⟨parts, hskip parts, hfirst⟩

theorem takeMembers_perm {members others : List (Key × Tree)} (h : members.Perm others) {parts last : Parts}
    (hmembers : form.takeMembers parts members = .ok last) : form.takeMembers parts others = .ok last := by
  induction h generalizing parts with
  | nil => exact hmembers
  | cons member _ ih =>
      obtain ⟨name, hname, hmembers⟩ := Outcome.bind_eq_ok_iff.mp hmembers
      obtain ⟨next, hnext, hmembers⟩ := Outcome.bind_eq_ok_iff.mp hmembers
      exact Outcome.bind_eq_ok_iff.mpr ⟨name, hname, Outcome.bind_eq_ok_iff.mpr ⟨next, hnext, ih hmembers⟩⟩
  | swap second first members =>
      obtain ⟨name, hname, hmembers⟩ := Outcome.bind_eq_ok_iff.mp hmembers
      obtain ⟨next, hnext, hmembers⟩ := Outcome.bind_eq_ok_iff.mp hmembers
      obtain ⟨name', hname', hmembers⟩ := Outcome.bind_eq_ok_iff.mp hmembers
      obtain ⟨next', hnext', hmembers⟩ := Outcome.bind_eq_ok_iff.mp hmembers
      obtain ⟨swapped, hsecond, hfirst⟩ := hslots.take_swap hnext hnext'
      refine Outcome.bind_eq_ok_iff.mpr ⟨name', hname', Outcome.bind_eq_ok_iff.mpr ⟨swapped, hsecond, ?_⟩⟩
      exact Outcome.bind_eq_ok_iff.mpr ⟨name, hname, Outcome.bind_eq_ok_iff.mpr ⟨next', hfirst, hmembers⟩⟩
  | trans _ _ ih ihother => exact ihother (ih hmembers)

theorem takeMembers_elsewhere {slot : Slot Parts} (hslot : slot ∈ slots) {members : List (Key × Tree)}
    (homitted : ∀ member ∈ members, member.1 ≠ .text (some slot.name)) {parts last : Parts}
    (h : form.takeMembers parts members = .ok last) :
    slot.get last = slot.get parts ∧
      ∀ held, form.takeMembers (slot.set parts held) members = .ok (slot.set last held) := by
  induction members generalizing parts with
  | nil =>
      cases h
      exact ⟨rfl, fun _ => rfl⟩
  | cons member members ih =>
      obtain ⟨hmember, hmembers⟩ := List.forall_mem_cons.mp homitted
      obtain ⟨name, hname, h⟩ := Outcome.bind_eq_ok_iff.mp h
      obtain ⟨next, hnext, h⟩ := Outcome.bind_eq_ok_iff.mp h
      have hne : name ≠ slot.name := by
        rintro rfl
        exact hmember (decode_key_eq_ok_iff.mp hname)
      obtain ⟨hget, htake⟩ := hslots.take_elsewhere hslot hne hnext
      obtain ⟨hgetLast, htakeLast⟩ := ih hmembers h
      refine ⟨hgetLast.trans hget, fun held => ?_⟩
      refine Outcome.bind_eq_ok_iff.mpr ⟨name, hname, Outcome.bind_eq_ok_iff.mpr ⟨_, htake held, htakeLast held⟩⟩

theorem take_varied {room : Nat} {slot : Slot Parts} (hslot : slot ∈ slots) {field : FieldLayout}
    (hfield : slot.Admits form.finish room field) {value other : Tree} (h : field.varies room value other)
    {parts next : Parts} (htake : form.take parts slot.name value = .ok next) :
    form.take parts slot.name other = .ok next := by
  rw [hslots.take slot hslot, Slot.take_eq_ok_iff] at htake ⊢
  obtain ⟨hempty, held, hheld, rfl⟩ := htake
  exact ⟨hempty, held, hfield.respects h hheld, rfl⟩

theorem takeItems_varied {room : Nat} {some : List (Slot Parts)} {layout : Layout}
    (hsome : ∀ slot ∈ some, slot ∈ slots) (hlayout : List.Forall₂ (Slot.Admits form.finish room) some layout)
    {items others : List Tree} (h : ItemsVary room layout items others) {parts last : Parts}
    (hitems : form.takeItems parts ((some.map Slot.name).zip items) = .ok last) :
    form.takeItems parts ((some.map Slot.name).zip others) = .ok last := by
  induction h generalizing some parts with
  | nil => exact hitems
  | cons hitem _ ih =>
      cases hlayout with
      | @cons slot field some _ hfield hlater =>
          obtain ⟨hslot, hsome⟩ := List.forall_mem_cons.mp hsome
          obtain ⟨next, hnext, hitems⟩ := Outcome.bind_eq_ok_iff.mp hitems
          exact Outcome.bind_eq_ok_iff.mpr ⟨next, hslots.take_varied hslot hfield hitem hnext, ih hsome hlater hitems⟩

end HasSlots

/-- A record whose fields have places of their own is decoded alike however it is written. -/
theorem respects_recordVaries (hslots : form.HasSlots slots) {room : Nat} {layout : Layout}
    (hlayout : List.Forall₂ (Slot.Admits form.finish (room - 1)) slots layout) (mode : Mode) :
    Respects (form.decode mode) (RecordVaries layout room) := by
  intro tree other value h htree
  induction h with
  | refl => exact htree
  | trans _ _ ih ihother => exact ihother (ih htree)
  | reorder h =>
      obtain ⟨parts, hparts, hclosed⟩ := decode_object_eq_ok_iff.mp htree
      exact decode_object_eq_ok_iff.mpr ⟨parts, hslots.takeMembers_perm h hparts, hclosed⟩
  | @addUnknown name _ _ _ hname hvalue =>
      have hunknown : name ∉ slots.map Slot.name := by
        intro hmem
        obtain ⟨slot, hslot, rfl⟩ := List.mem_map.mp hmem
        obtain ⟨field, hfield, hadmits⟩ := exists_right_of_forall₂ hlayout hslot
        exact hname (List.mem_map.mpr ⟨field, hfield, hadmits.name⟩)
      obtain ⟨parts, hparts, hclosed⟩ := decode_object_eq_ok_iff.mp htree
      refine decode_object_eq_ok_iff.mpr ⟨parts, ?_, hclosed⟩
      rw [takeMembers_named, hslots.skip name hunknown, hvalue.skip_eq_ok]
      exact hparts
  | writeDefault hfield hdefault homitted =>
      obtain ⟨slot, hslot, hadmits⟩ := exists_left_of_forall₂ hlayout hfield
      obtain ⟨held, hheld, hfinish⟩ := hadmits.default _ hdefault
      rw [hadmits.name] at homitted ⊢
      obtain ⟨parts, hparts, hending, hvalue⟩ := decode_object_eq_ok_iff.mp htree
      obtain ⟨hget, htake⟩ := hslots.takeMembers_elsewhere hslot homitted hparts
      have hempty : slot.get form.start = none := hslots.start slot hslot
      have hfirst : form.take form.start slot.name _ = .ok (slot.set form.start (some held)) :=
        (hslots.take slot hslot _ _).trans (Slot.take_eq_ok_iff.mpr ⟨hempty, held, hheld, rfl⟩)
      refine decode_object_eq_ok_iff.mpr ⟨slot.set parts (some held), ?_, hending, ?_⟩
      · rw [takeMembers_named, hfirst]
        exact htake (some held)
      · rw [hfinish parts (hget.trans hempty), hvalue]
  | vary hfield h =>
      obtain ⟨slot, hslot, hadmits⟩ := exists_left_of_forall₂ hlayout hfield
      rw [hadmits.name] at htree ⊢
      obtain ⟨parts, hparts, hclosed⟩ := decode_object_eq_ok_iff.mp htree
      rw [takeMembers_named] at hparts
      obtain ⟨next, hnext, hparts⟩ := Outcome.bind_eq_ok_iff.mp hparts
      refine decode_object_eq_ok_iff.mpr ⟨parts, ?_, hclosed⟩
      rw [takeMembers_named, hslots.take_varied hslot hadmits h hnext]
      exact hparts
  | varyItems h =>
      obtain ⟨parts, hparts, hlength, hclosed⟩ := decode_array_eq_ok_iff.mp htree
      rw [hslots.fields] at hparts
      refine decode_array_eq_ok_iff.mpr ⟨parts, ?_, h.length_eq ▸ hlength, hclosed⟩
      rw [hslots.fields]
      exact hslots.takeItems_varied (fun _ hslot => hslot) hlayout h hparts

end RecordForm

end ApiProxy.Json
