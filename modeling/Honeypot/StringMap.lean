/-!
Finite maps and sets over strings, listed in increasing order of their keys.

The order of strings is by code points, which is also the order of their UTF-8 bytes. Since the
keys increase strictly, a map has one list of entries only, however it was built.
-/

namespace Honeypot

structure StringMap (β : Type) where
  /-- The entries, in increasing order of their keys. -/
  entries : List (String × β)
  sorted : entries.Pairwise fun a b => a.1 < b.1

namespace StringMap

variable {β γ : Type}

instance [BEq β] : BEq (StringMap β) where
  beq m n := m.entries == n.entries

theorem ext {m n : StringMap β} (h : m.entries = n.entries) : m = n := by
  cases m; cases n; simp_all

def empty : StringMap β := ⟨[], .nil⟩

instance : EmptyCollection (StringMap β) := ⟨empty⟩

instance : Inhabited (StringMap β) := ⟨empty⟩

/-- Put an entry in its place in an ordered list, in the stead of an entry with the same key. -/
def insertEntry (key : String) (value : β) : List (String × β) → List (String × β)
  | [] => [(key, value)]
  | (k, v) :: rest =>
      if key < k then (key, value) :: (k, v) :: rest
      else if key = k then (key, value) :: rest
      else (k, v) :: insertEntry key value rest

theorem mem_insertEntry {key : String} {value : β} {entry : String × β}
    {entries : List (String × β)} (h : entry ∈ insertEntry key value entries) :
    entry = (key, value) ∨ entry ∈ entries := by
  induction entries with
  | nil => simpa [insertEntry] using h
  | cons head rest ih =>
      obtain ⟨k, v⟩ := head
      rw [insertEntry] at h
      split at h
      · simpa using h
      · split at h
        · rcases List.mem_cons.mp h with h | h
          · exact .inl h
          · exact .inr (List.mem_cons_of_mem _ h)
        · rcases List.mem_cons.mp h with h | h
          · exact .inr (h ▸ List.mem_cons_self)
          · exact (ih h).imp_right (List.mem_cons_of_mem _)

theorem sorted_insertEntry (key : String) (value : β) {entries : List (String × β)}
    (h : entries.Pairwise fun a b => a.1 < b.1) :
    (insertEntry key value entries).Pairwise fun a b => a.1 < b.1 := by
  induction entries with
  | nil => simp [insertEntry]
  | cons head rest ih =>
      obtain ⟨k, v⟩ := head
      rw [List.pairwise_cons] at h
      rw [insertEntry]
      split
      · rename_i hlt
        refine List.pairwise_cons.mpr ⟨fun e he => ?_, List.pairwise_cons.mpr h⟩
        rcases List.mem_cons.mp he with rfl | he
        · exact hlt
        · exact String.lt_trans hlt (h.1 e he)
      · split
        · rename_i heq
          subst heq
          exact List.pairwise_cons.mpr ⟨fun e he => h.1 e he, h.2⟩
        · rename_i hlt hne
          refine List.pairwise_cons.mpr ⟨fun e he => ?_, ih h.2⟩
          rcases mem_insertEntry he with rfl | he
          · exact Std.lt_of_le_of_ne (String.not_lt.mp hlt) (fun e => hne e.symm)
          · exact h.1 e he

/-- Add an entry; an earlier one with the same key is forgotten. -/
def insert (m : StringMap β) (key : String) (value : β) : StringMap β :=
  ⟨insertEntry key value m.entries, sorted_insertEntry key value m.sorted⟩

/-- The map of a list of entries, the last one of each key. -/
def ofList (entries : List (String × β)) : StringMap β :=
  entries.foldl (fun m e => m.insert e.1 e.2) empty

def find? (m : StringMap β) (key : String) : Option β := m.entries.lookup key

def keys (m : StringMap β) : List String := m.entries.map Prod.fst

def values (m : StringMap β) : List β := m.entries.map Prod.snd

def mapValues (m : StringMap β) (f : String → β → γ) : StringMap γ :=
  ⟨m.entries.map fun e => (e.1, f e.1 e.2), List.pairwise_map.mpr m.sorted⟩

end StringMap

abbrev StringSet := StringMap Unit

namespace StringSet

def add (s : StringSet) (element : String) : StringSet := s.insert element ()

def addAll (s : StringSet) (elements : List String) : StringSet := elements.foldl add s

def ofList (elements : List String) : StringSet := addAll .empty elements

def toList (s : StringSet) : List String := s.keys

end StringSet

end Honeypot
