import Mathlib.Data.List.Basic
import Mathlib.Data.List.Induction
import Mathlib.Tactic.SplitIfs
import ApiProxy.OrderedMap

/-! Maps filled entry by entry. A new key goes to the end, so entries of distinct keys stay as they are listed. -/

namespace ApiProxy.OrderedMap

variable {α : Type}

theorem putEntry_of_notMem {key : String} {value : α} {entries : List (String × α)}
    (h : key ∉ entries.map Prod.fst) : putEntry key value entries = entries ++ [(key, value)] := by
  induction entries with
  | nil => rfl
  | cons entry rest ih =>
      obtain ⟨k, v⟩ := entry
      rw [List.map_cons, List.mem_cons, not_or] at h
      rw [putEntry, if_neg fun heq => h.1 heq.symm, ih h.2]
      rfl

theorem entries_foldl_insert (map : OrderedMap α) {pairs : List (String × α)}
    (h : (map.keys ++ pairs.map Prod.fst).Nodup) :
    (pairs.foldl (fun map pair => map.insert pair.1 pair.2) map).entries = map.entries ++ pairs := by
  induction pairs generalizing map with
  | nil => simp
  | cons pair pairs ih =>
      rw [List.map_cons, List.append_cons] at h
      have hnew : pair.1 ∉ map.keys := by
        intro hmem
        rw [List.append_assoc] at h
        exact (List.nodup_append.mp h).2.2 _ hmem _ List.mem_cons_self rfl
      have hentries : (map.insert pair.1 pair.2).entries = map.entries ++ [pair] := putEntry_of_notMem hnew
      have hkeys : (map.insert pair.1 pair.2).keys = map.keys ++ [pair.1] := by
        rw [keys_insert, if_neg hnew]
      rw [List.foldl_cons, ih _ (by rwa [hkeys]), hentries, List.append_assoc]
      rfl

theorem mem_putEntry {key : String} {value : α} {entries : List (String × α)} {entry : String × α}
    (h : entry ∈ putEntry key value entries) : entry = (key, value) ∨ entry ∈ entries := by
  induction entries with
  | nil => exact Or.inl (List.mem_singleton.mp h)
  | cons head rest ih =>
      obtain ⟨k, v⟩ := head
      rw [putEntry] at h
      split at h
      next hkey =>
        subst hkey
        exact (List.mem_cons.mp h).imp_right (List.mem_cons_of_mem _)
      next =>
        rcases List.mem_cons.mp h with rfl | hrest
        · exact Or.inr List.mem_cons_self
        · exact (ih hrest).imp_right (List.mem_cons_of_mem _)

/-- Every entry of a map is one of those it was filled with. -/
theorem mem_foldl_insert {map : OrderedMap α} {pairs : List (String × α)} {entry : String × α}
    (h : entry ∈ (pairs.foldl (fun map pair => map.insert pair.1 pair.2) map).entries) :
    entry ∈ map.entries ∨ entry ∈ pairs := by
  induction pairs generalizing map with
  | nil => exact Or.inl h
  | cons pair pairs ih =>
      rcases ih h with hmap | hpairs
      · rcases mem_putEntry hmap with rfl | hmem
        · exact Or.inr List.mem_cons_self
        · exact Or.inl hmem
      · exact Or.inr (List.mem_cons_of_mem _ hpairs)

/-- A map that is filled in turn holds for a key what came for it last. -/
theorem get?_foldl_insert (map : OrderedMap α) (pairs : List (String × α)) (key : String) :
    (pairs.foldl (fun map pair => map.insert pair.1 pair.2) map).get? key =
      (pairs.reverse.lookup key).or (map.get? key) := by
  induction pairs generalizing map with
  | nil => rfl
  | cons pair pairs ih =>
      obtain ⟨k, v⟩ := pair
      rw [List.foldl_cons, ih, get?_insert, List.reverse_cons, List.lookup_append, Option.or_assoc, lookup_cons]
      split_ifs <;> rfl

theorem get?_foldl_insert_isSome (map : OrderedMap α) {pairs : List (String × α)} {key : String}
    (h : key ∈ pairs.map Prod.fst) :
    ((pairs.foldl (fun map pair => map.insert pair.1 pair.2) map).get? key).isSome = true := by
  obtain ⟨pair, hpair, rfl⟩ := List.mem_map.mp h
  rw [get?_foldl_insert, Option.isSome_or, Bool.or_eq_true, List.lookup_isSome_iff]
  exact Or.inl ⟨pair, List.mem_reverse.mpr hpair, beq_self_eq_true pair.1⟩

/-- The keys of a map that is filled in turn stand where they first came. -/
theorem keys_foldl_insert_empty (pairs : List (String × α)) :
    (pairs.foldl (fun map pair => map.insert pair.1 pair.2) (empty : OrderedMap α)).keys =
      (pairs.map Prod.fst).eraseDups := by
  induction pairs using List.reverseRecOn with
  | nil => rfl
  | append_singleton pairs pair ih =>
      rw [List.foldl_append, List.foldl_cons, List.foldl_nil, keys_insert, ih, List.map_append, List.map_singleton, List.eraseDups_append]
      by_cases hmem : pair.1 ∈ pairs.map Prod.fst
      · rw [if_pos (List.mem_eraseDups.mpr hmem)]
        simp [List.removeAll, hmem]
      · rw [if_neg fun hdups => hmem (List.mem_eraseDups.mp hdups)]
        simp [List.removeAll, hmem, List.eraseDups_cons]

/-- The values of a map, in the order of its keys. -/
theorem values_eq (map : OrderedMap α) : map.entries.map Prod.snd = map.keys.filterMap map.get? := by
  have hget : ∀ entry ∈ map.entries, some entry.2 = map.get? entry.1 :=
    fun entry hentry => (get?_eq_some_iff.mpr hentry).symm
  have hvalues : map.entries.filterMap (fun entry => some entry.2) = map.entries.map Prod.snd :=
    congrFun List.filterMap_eq_map' map.entries
  rw [keys, List.filterMap_map, ← hvalues]
  exact List.filterMap_congr hget

end ApiProxy.OrderedMap
