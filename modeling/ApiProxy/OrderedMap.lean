/-! Maps with string keys that remember the order in which the keys were first put in. -/

namespace ApiProxy

structure OrderedMap (α : Type) where
  entries : List (String × α)
  distinct : (entries.map Prod.fst).Nodup

namespace OrderedMap

variable {α : Type}

theorem ext {a b : OrderedMap α} (h : a.entries = b.entries) : a = b := by
  cases a; cases b; cases h; rfl

instance [DecidableEq α] : DecidableEq (OrderedMap α) := fun a b =>
  if h : a.entries = b.entries then isTrue (ext h) else isFalse fun heq => h (congrArg entries heq)

def empty : OrderedMap α := ⟨[], by simp⟩

instance : Inhabited (OrderedMap α) := ⟨empty⟩

def keys (map : OrderedMap α) : List String := map.entries.map Prod.fst

def get? (map : OrderedMap α) (key : String) : Option α := map.entries.lookup key

/-- Replaces the value of a key where it stands, or adds the key at the end. -/
def putEntry (key : String) (value : α) : List (String × α) → List (String × α)
  | [] => [(key, value)]
  | (k, v) :: rest => if k = key then (k, value) :: rest else (k, v) :: putEntry key value rest

theorem keys_putEntry (key : String) (value : α) (entries : List (String × α)) :
    (putEntry key value entries).map Prod.fst =
      if key ∈ entries.map Prod.fst then entries.map Prod.fst else entries.map Prod.fst ++ [key] := by
  induction entries with
  | nil => simp [putEntry]
  | cons entry rest ih =>
    obtain ⟨k, v⟩ := entry
    by_cases hk : k = key
    · simp [putEntry, hk]
    · have hk' : ¬ key = k := fun h => hk h.symm
      by_cases hmem : key ∈ rest.map Prod.fst <;> simp_all [putEntry]

theorem nodup_putEntry (key : String) (value : α) {entries : List (String × α)}
    (h : (entries.map Prod.fst).Nodup) : ((putEntry key value entries).map Prod.fst).Nodup := by
  rw [keys_putEntry]
  split
  · exact h
  · next hmem => exact List.nodup_append.mpr ⟨h, by simp, by grind⟩

def insert (map : OrderedMap α) (key : String) (value : α) : OrderedMap α :=
  ⟨putEntry key value map.entries, nodup_putEntry key value map.distinct⟩

theorem keys_insert (map : OrderedMap α) (key : String) (value : α) :
    (map.insert key value).keys = if key ∈ map.keys then map.keys else map.keys ++ [key] :=
  keys_putEntry key value map.entries

theorem lookup_cons {κ : Type} [BEq κ] [LawfulBEq κ] [DecidableEq κ] (key : κ) (value : α) (rest : List (κ × α))
    (other : κ) : ((key, value) :: rest).lookup other = if other = key then some value else rest.lookup other := by
  by_cases h : other = key
  · simp [h]
  · have hne : (other == key) = false := beq_eq_false_iff_ne.mpr h
    simp [List.lookup_cons, hne, h]

/-- Where no key comes twice, a key is looked up as one of its entries says. -/
theorem lookup_eq_some_iff_mem {entries : List (String × α)} (h : (entries.map Prod.fst).Nodup) {key : String}
    {value : α} : entries.lookup key = some value ↔ (key, value) ∈ entries := by
  induction entries with
  | nil => simp
  | cons entry rest ih =>
    obtain ⟨k, v⟩ := entry
    rw [List.map_cons, List.nodup_cons] at h
    rw [lookup_cons, List.mem_cons]
    split
    · next hk =>
      subst hk
      have hnot : (key, value) ∉ rest := fun hmem =>
        h.1 (List.mem_map.mpr ⟨_, hmem, rfl⟩)
      simp [hnot, eq_comm]
    · next hk => rw [ih h.2]; simp [hk]

theorem get?_eq_some_iff {map : OrderedMap α} {key : String} {value : α} :
    map.get? key = some value ↔ (key, value) ∈ map.entries :=
  lookup_eq_some_iff_mem map.distinct

/-- The order of its entries does not matter to what a map holds. -/
theorem get?_eq_of_perm {map other : OrderedMap α} (h : other.entries.Perm map.entries) (key : String) :
    other.get? key = map.get? key := by
  apply Option.ext
  intro value
  rw [get?_eq_some_iff, get?_eq_some_iff, h.mem_iff]

theorem lookup_putEntry (key : String) (value : α) (entries : List (String × α)) (other : String) :
    (putEntry key value entries).lookup other = if other = key then some value else entries.lookup other := by
  induction entries with
  | nil => rw [putEntry, lookup_cons]
  | cons entry rest ih =>
    obtain ⟨k, v⟩ := entry
    rw [putEntry]
    split
    · next hk =>
      subst hk
      rw [lookup_cons, lookup_cons]
      by_cases h : other = k <;> simp [h]
    · next hk =>
      rw [lookup_cons, lookup_cons, ih]
      by_cases h : other = k
      · have hne : ¬ other = key := h ▸ hk
        rw [if_pos h, if_neg hne, if_pos h]
      · rw [if_neg h, if_neg h]

theorem get?_insert (map : OrderedMap α) (key : String) (value : α) (other : String) :
    (map.insert key value).get? other = if other = key then some value else map.get? other :=
  lookup_putEntry key value map.entries other

end OrderedMap

end ApiProxy
