import Mathlib.Data.List.FinRange
import Mathlib.Data.Prod.Lex

namespace Honeypot

variable {α β : Type}

theorem filter_eq_map_places (list : List α) (p : α → Bool) :
    list.filter p =
      ((List.finRange list.length).filter fun i => p list[i]).map fun i => list[i] := by
  conv_lhs => rw [← List.map_getElem_finRange list]
  exact List.filter_map

theorem filter_flatMap_filter (as : List α) (bs : List β) (p : α → Bool) (q : α → β → Bool) :
    ((as.filter p).flatMap fun a => (bs.filter (q a)).map fun b => (a, b)) =
      as.flatMap fun a => (bs.filter fun b => p a && q a b).map fun b => (a, b) := by
  induction as with
  | nil => rfl
  | cons a as ih =>
      rw [List.flatMap_cons, ← ih]
      cases hp : p a with
      | true => simp [hp]
      | false => simp [hp]

/-- The places of two lists at which a relation holds, by the place in the first list and then by
the place in the second. -/
def pairPlaces (as : List α) (bs : List β) (related : α → β → Bool) :
    List (Fin as.length × Fin bs.length) :=
  (List.finRange as.length).flatMap fun i =>
    ((List.finRange bs.length).filter fun j => related as[i] bs[j]).map fun j => (i, j)

variable {as : List α} {bs : List β} {related : α → β → Bool}

theorem mem_pairPlaces_iff {i : Fin as.length} {j : Fin bs.length} :
    (i, j) ∈ pairPlaces as bs related ↔ related as[i] bs[j] = true := by
  simp only [pairPlaces, List.mem_flatMap, List.mem_map, List.mem_filter, List.mem_finRange,
    true_and, Prod.mk.injEq]
  constructor
  · rintro ⟨_, _, h, rfl, rfl⟩
    exact h
  · intro h
    exact ⟨i, j, h, rfl, rfl⟩

theorem pairwise_pairPlaces :
    (pairPlaces as bs related).Pairwise (Prod.Lex (· < ·) (· < ·)) := by
  rw [pairPlaces, List.pairwise_flatMap]
  constructor
  · intro i _
    rw [List.pairwise_map]
    exact ((List.pairwise_lt_finRange _).filter _).imp fun hlt => .right _ hlt
  · refine (List.pairwise_lt_finRange _).imp fun hlt => ?_
    intro first hfirst second hsecond
    obtain ⟨_, _, rfl⟩ := List.mem_map.mp hfirst
    obtain ⟨_, _, rfl⟩ := List.mem_map.mp hsecond
    exact .left _ _ hlt

theorem pairs_eq_map_pairPlaces :
    (as.flatMap fun a => (bs.filter (related a)).map fun b => (a, b)) =
      (pairPlaces as bs related).map fun (i, j) => (as[i], bs[j]) := by
  conv_lhs => rw [← List.map_getElem_finRange as]
  rw [List.flatMap_map, pairPlaces, List.map_flatMap]
  refine List.flatMap_congr fun i _ => ?_
  rw [filter_eq_map_places bs, List.map_map, List.map_map]
  rfl

end Honeypot
