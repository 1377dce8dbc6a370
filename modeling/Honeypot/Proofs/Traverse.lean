import Mathlib.Init

namespace Honeypot

variable {α β γ : Type}

theorem foldlM_cons_of_eq_some {f : β → α → Option β} {b b' : β} {a : α} (h : f b a = some b')
    (rest : List α) : (a :: rest).foldlM f b = rest.foldlM f b' := by
  rw [List.foldlM_cons, h, Option.bind_eq_bind, Option.bind_some]

theorem foldlM_append_of_eq_some {f : β → α → Option β} {b b' : β} {front : List α}
    (h : front.foldlM f b = some b') (rest : List α) :
    (front ++ rest).foldlM f b = rest.foldlM f b' := by
  rw [List.foldlM_append, h, Option.bind_eq_bind, Option.bind_some]

theorem mapM_cons_eq_some_iff {f : α → Option β} {a : α} {rest : List α} {results : List β} :
    (a :: rest).mapM f = some results ↔
      ∃ b later, f a = some b ∧ rest.mapM f = some later ∧ results = b :: later := by
  rw [List.mapM_cons]
  constructor
  · intro h
    obtain ⟨b, hb, h⟩ := Option.bind_eq_some_iff.mp h
    obtain ⟨later, hlater, h⟩ := Option.bind_eq_some_iff.mp h
    exact ⟨b, later, hb, hlater, (Option.some.inj h).symm⟩
  · rintro ⟨b, later, hb, hlater, rfl⟩
    rw [hb, hlater]
    rfl

theorem exists_of_mem_mapM {f : α → Option β} {list : List α} {results : List β}
    (h : list.mapM f = some results) {b : β} (hb : b ∈ results) : ∃ a ∈ list, f a = some b := by
  induction list generalizing results with
  | nil =>
      obtain rfl := Option.some.inj h
      cases hb
  | cons a rest ih =>
      obtain ⟨first, later, hfirst, hlater, rfl⟩ := mapM_cons_eq_some_iff.mp h
      rcases List.mem_cons.mp hb with rfl | hb
      · exact ⟨a, List.mem_cons_self, hfirst⟩
      · obtain ⟨a', ha', hread⟩ := ih hlater hb
        exact ⟨a', List.mem_cons_of_mem _ ha', hread⟩

theorem mapM_eq_some_iff {f : α → Option β} {list : List α} {results : List β} :
    list.mapM f = some results ↔ list.map f = results.map some := by
  induction list generalizing results with
  | nil => cases results <;> simp
  | cons a rest ih =>
      rw [mapM_cons_eq_some_iff, List.map_cons]
      constructor
      · rintro ⟨b, later, hb, hlater, rfl⟩
        rw [hb, ih.mp hlater, List.map_cons]
      · intro h
        cases results with
        | nil => cases h
        | cons b later =>
            obtain ⟨hb, hlater⟩ := List.cons.inj h
            exact ⟨b, later, hb, ih.mpr hlater, rfl⟩

theorem mapM_map_eq_some {f : β → Option γ} {g : α → β} {k : α → γ} {list : List α}
    (h : ∀ a ∈ list, f (g a) = some (k a)) : (list.map g).mapM f = some (list.map k) := by
  rw [mapM_eq_some_iff, List.map_map, List.map_map]
  exact List.map_congr_left h

end Honeypot
