import Honeypot.StringMap
import Mathlib.Data.List.Induction

namespace Honeypot

namespace StringMap

variable {β : Type}

theorem insertEntry_of_lt {key : String} {value : β} {entries : List (String × β)}
    (h : ∀ entry ∈ entries, key < entry.1) :
    insertEntry key value entries = (key, value) :: entries := by
  cases entries with
  | nil => rfl
  | cons head rest => rw [insertEntry, if_pos (h head List.mem_cons_self)]

theorem insertEntry_of_gt {key : String} {value : β} {entries : List (String × β)}
    (h : ∀ entry ∈ entries, entry.1 < key) :
    insertEntry key value entries = entries ++ [(key, value)] := by
  induction entries with
  | nil => rfl
  | cons head rest ih =>
      obtain ⟨hhead, hrest⟩ := List.forall_mem_cons.mp h
      have hne : key ≠ head.1 := fun e => String.lt_irrefl _ (e ▸ hhead)
      rw [insertEntry, if_neg (String.lt_asymm hhead), if_neg hne, ih hrest, List.cons_append]

theorem lookup_cons_pair (key : String) (value : β) (rest : List (String × β)) (k : String) :
    ((key, value) :: rest).lookup k = if k = key then some value else rest.lookup k := by
  rw [List.lookup_cons]
  by_cases h : k = key
  · simp [h]
  · simp [h, beq_eq_false_iff_ne.mpr h]

theorem lookup_insertEntry (key : String) (value : β) (entries : List (String × β)) (k : String) :
    (insertEntry key value entries).lookup k =
      if k = key then some value else entries.lookup k := by
  induction entries with
  | nil => rw [insertEntry, lookup_cons_pair]
  | cons head rest ih =>
      obtain ⟨first, old⟩ := head
      rw [insertEntry]
      split
      · rw [lookup_cons_pair]
      · split
        · rename_i heq
          subst heq
          rw [lookup_cons_pair, lookup_cons_pair]
          by_cases h : k = key <;> simp [h]
        · rename_i hne
          rw [lookup_cons_pair, lookup_cons_pair, ih]
          by_cases h : k = first
          · subst h
            simp [Ne.symm hne]
          · simp [h]

theorem find?_insert (m : StringMap β) (key : String) (value : β) (k : String) :
    (m.insert key value).find? k = if k = key then some value else m.find? k :=
  lookup_insertEntry key value m.entries k

theorem lookup_eq_some_iff_mem {entries : List (String × β)}
    (h : entries.Pairwise fun a b => a.1 < b.1) {key : String} {value : β} :
    entries.lookup key = some value ↔ (key, value) ∈ entries := by
  induction entries with
  | nil => simp
  | cons head rest ih =>
      obtain ⟨first, old⟩ := head
      obtain ⟨hfirst, hrest⟩ := List.pairwise_cons.mp h
      rw [lookup_cons_pair, List.mem_cons, Prod.mk.injEq]
      by_cases hkey : key = first
      · subst hkey
        have habsent : (key, value) ∉ rest := fun hmem =>
          String.lt_irrefl key (hfirst (key, value) hmem)
        simp [habsent, eq_comm]
      · simp [hkey, ih hrest]

theorem find?_eq_some_iff_mem {m : StringMap β} {key : String} {value : β} :
    m.find? key = some value ↔ (key, value) ∈ m.entries :=
  lookup_eq_some_iff_mem m.sorted

theorem find?_eq_none_iff {m : StringMap β} {key : String} :
    m.find? key = none ↔ ∀ value, (key, value) ∉ m.entries := by
  rw [Option.eq_none_iff_forall_ne_some]
  exact forall_congr' fun value => not_congr find?_eq_some_iff_mem

theorem ext_find? {m n : StringMap β} (h : ∀ key, m.find? key = n.find? key) : m = n := by
  have hmem (entry : String × β) : entry ∈ m.entries ↔ entry ∈ n.entries := by
    obtain ⟨key, value⟩ := entry
    rw [← find?_eq_some_iff_mem, ← find?_eq_some_iff_mem, h]
  have hnodup (m : StringMap β) : m.entries.Nodup := by
    refine m.sorted.imp ?_
    rintro a b hlt rfl
    exact String.lt_irrefl _ hlt
  have hperm : m.entries.Perm n.entries :=
    (List.perm_ext_iff_of_nodup (hnodup m) (hnodup n)).mpr hmem
  exact ext (hperm.eq_of_pairwise (fun a b _ _ hab hba => absurd hab (String.lt_asymm hba))
    m.sorted n.sorted)

theorem mem_keys_iff {m : StringMap β} {key : String} :
    key ∈ m.keys ↔ ∃ value, m.find? key = some value := by
  simp [keys, find?_eq_some_iff_mem]

theorem mem_keys_insert_iff {m : StringMap β} {key k : String} {value : β} :
    k ∈ (m.insert key value).keys ↔ k = key ∨ k ∈ m.keys := by
  rw [mem_keys_iff, mem_keys_iff, find?_insert]
  split
  · rename_i h
    simp [h]
  · rename_i h
    simp [h]

theorem mem_values_iff {m : StringMap β} {value : β} :
    value ∈ m.values ↔ ∃ key, m.find? key = some value := by
  simp only [values, List.mem_map, find?_eq_some_iff_mem, Prod.exists, exists_eq_right]

theorem nodup_keys (m : StringMap β) : m.keys.Nodup :=
  List.pairwise_map.mpr (m.sorted.imp fun h => String.ne_of_lt h)

theorem map_find?_keys (m : StringMap β) : m.keys.map m.find? = m.values.map some := by
  rw [keys, values, List.map_map, List.map_map]
  exact List.map_congr_left fun _ hentry => find?_eq_some_iff_mem.mpr hentry

theorem ofList_append_singleton (entries : List (String × β)) (entry : String × β) :
    ofList (entries ++ [entry]) = (ofList entries).insert entry.1 entry.2 := by
  rw [ofList, List.foldl_append, List.foldl_cons, List.foldl_nil, ofList]

/-- The map of a list holds the last entry of each key. -/
theorem find?_ofList (entries : List (String × β)) (key : String) :
    (ofList entries).find? key = entries.reverse.lookup key := by
  induction entries using List.reverseRecOn with
  | nil => rfl
  | append_singleton entries entry ih =>
      rw [ofList_append_singleton, find?_insert, ih, List.reverse_append, List.reverse_singleton,
        List.singleton_append, lookup_cons_pair]

section Replace

variable (before : List (String × β)) {after : List (String × β)} {key : String}

theorem find?_ofList_append_cons (h : ∀ entry ∈ after, entry.1 ≠ key) (value : β) :
    (ofList (before ++ (key, value) :: after)).find? key = some value := by
  have hafter : after.reverse.lookup key = none := by
    rw [List.lookup_eq_none_iff]
    intro entry hentry
    exact bne_iff_ne.mpr (h entry (List.mem_reverse.mp hentry)).symm
  rw [find?_ofList, List.reverse_append, List.reverse_cons, List.lookup_append,
    List.lookup_append, hafter, lookup_cons_pair, if_pos rfl]
  rfl

theorem ofList_append_cons (h : ∀ entry ∈ after, entry.1 ≠ key) (old new : β) :
    ofList (before ++ (key, new) :: after) =
      (ofList (before ++ (key, old) :: after)).insert key new := by
  refine ext_find? fun k => ?_
  rw [find?_insert]
  split
  · rename_i hk
    rw [hk, find?_ofList_append_cons before h]
  · rename_i hk
    simp only [find?_ofList, List.reverse_append, List.reverse_cons, List.lookup_append,
      lookup_cons_pair, if_neg hk]

end Replace

theorem mem_of_mem_ofList {entries : List (String × β)} {entry : String × β}
    (h : entry ∈ (ofList entries).entries) : entry ∈ entries := by
  induction entries using List.reverseRecOn with
  | nil => exact h
  | append_singleton entries last ih =>
      rw [ofList_append_singleton] at h
      rcases mem_insertEntry h with rfl | h
      · exact List.mem_append_right _ List.mem_cons_self
      · exact List.mem_append_left _ (ih h)

theorem exists_find?_ofList {entries : List (String × β)} {entry : String × β}
    (h : entry ∈ entries) : ∃ value, (ofList entries).find? entry.1 = some value := by
  induction entries using List.reverseRecOn with
  | nil => cases h
  | append_singleton entries last ih =>
      rw [ofList_append_singleton, find?_insert]
      split
      · exact ⟨last.2, rfl⟩
      · rename_i hne
        rcases List.mem_append.mp h with h | h
        · exact ih h
        · obtain rfl := List.mem_singleton.mp h
          exact absurd rfl hne

theorem mem_keys_ofList_iff {entries : List (String × β)} {key : String} :
    key ∈ (ofList entries).keys ↔ key ∈ entries.map Prod.fst := by
  rw [mem_keys_iff, List.mem_map]
  constructor
  · rintro ⟨value, h⟩
    exact ⟨(key, value), mem_of_mem_ofList (find?_eq_some_iff_mem.mp h), rfl⟩
  · rintro ⟨entry, hentry, rfl⟩
    exact exists_find?_ofList hentry

theorem find?_ofList_of_unique {entries : List (String × β)}
    (unique : ∀ a ∈ entries, ∀ b ∈ entries, a.1 = b.1 → a = b) {key : String} {value : β} :
    (ofList entries).find? key = some value ↔ (key, value) ∈ entries := by
  constructor
  · intro h
    exact mem_of_mem_ofList (find?_eq_some_iff_mem.mp h)
  · intro h
    obtain ⟨other, hother⟩ := exists_find?_ofList h
    have hmem := mem_of_mem_ofList (find?_eq_some_iff_mem.mp hother)
    obtain ⟨-, rfl⟩ := Prod.mk.inj (unique _ h _ hmem rfl)
    exact hother

theorem entries_ofList {entries : List (String × β)}
    (h : entries.Pairwise fun a b => a.1 < b.1) : (ofList entries).entries = entries := by
  induction entries using List.reverseRecOn with
  | nil => rfl
  | append_singleton entries entry ih =>
      obtain ⟨hentries, -, hlast⟩ := List.pairwise_append.mp h
      rw [ofList_append_singleton]
      show insertEntry entry.1 entry.2 (ofList entries).entries = entries ++ [entry]
      rw [ih hentries]
      exact insertEntry_of_gt fun e he => hlast e he entry List.mem_cons_self

theorem ofList_entries (m : StringMap β) : ofList m.entries = m := ext (entries_ofList m.sorted)

end StringMap

namespace StringSet

theorem toList_add (s : StringSet) (element : String) (e : String) :
    e ∈ (s.add element).toList ↔ e = element ∨ e ∈ s.toList := by
  rw [toList, toList, StringMap.mem_keys_iff, StringMap.mem_keys_iff, add]
  simp only [StringMap.find?_insert]
  by_cases h : e = element <;> simp [h]

theorem mem_toList_addAll (s : StringSet) (elements : List String) (e : String) :
    e ∈ (s.addAll elements).toList ↔ e ∈ elements ∨ e ∈ s.toList := by
  induction elements generalizing s with
  | nil => simp [addAll]
  | cons element elements ih =>
      rw [addAll, List.foldl_cons, ← addAll, ih, toList_add, List.mem_cons]
      exact or_left_comm.trans or_assoc.symm

theorem mem_toList_ofList {elements : List String} {e : String} :
    e ∈ (ofList elements).toList ↔ e ∈ elements := by
  rw [ofList, mem_toList_addAll]
  simp [toList, StringMap.keys, StringMap.empty]

theorem ext_toList {s t : StringSet} (h : ∀ e, e ∈ s.toList ↔ e ∈ t.toList) : s = t := by
  refine StringMap.ext_find? fun key => Option.ext fun value => ?_
  have hunit (s : StringSet) : s.find? key = some value ↔ key ∈ s.toList := by
    rw [toList, StringMap.mem_keys_iff]
    exact ⟨fun h => ⟨value, h⟩, fun ⟨_, h⟩ => h⟩
  rw [hunit, hunit, h]

theorem ofList_toList (s : StringSet) : ofList s.toList = s :=
  ext_toList fun _ => mem_toList_ofList

end StringSet

end Honeypot
