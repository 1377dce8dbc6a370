import Honeypot.Json.Record
import Honeypot.Proofs.Json.Value

namespace Honeypot

open Honeypot.Json

theorem required_some {α : Type} (read : Tree → Option α) (t : Tree) :
    required read (some t) = read t := rfl

theorem optional_some {α : Type} (default : α) (read : Tree → Option α) (t : Tree) :
    Json.optional default read (some t) = read t := rfl

theorem float?_realTree {x : Float} (h : x.isFinite = true) :
    (Value.tree (.real x)).float? = some x := by
  obtain ⟨n, -, -, hvalue, htree⟩ := Value.exists_realTree h
  show (Value.realTree x).float? = some x
  rw [htree]
  exact hvalue

theorem list?_tree {α : Type} {read : Tree → Option α} {toValue : α → Value Float}
    (h : ∀ a, read (toValue a).tree = some a) (list : List α) :
    (Value.tree (.array (list.map toValue))).list? read = some list := by
  rw [Value.tree, Value.itemTrees_eq_map, List.map_map]
  exact (mapM_map_eq_some (g := Value.tree ∘ toValue) (k := id) fun a _ => h a).trans
    (congrArg some (List.map_id list))

theorem nullable?_list?_tree {α : Type} {read : Tree → Option α} {toValue : α → Value Float}
    (h : ∀ a, read (toValue a).tree = some a) (list : List α) :
    Tree.nullable? (Tree.list? read) (Value.tree (.array (list.map toValue))) =
      some (some list) := by
  show ((Value.tree (.array (list.map toValue))).list? read).map some = some (some list)
  rw [list?_tree h, Option.map_some]

theorem word?_tree (w : UInt64) : (Value.tree (.int w.toNat)).word? = some w := by
  have hnumeral : (Numeral.mk (decide ((w.toNat : Int) < 0))
      ⟨(w.toNat : Int).natAbs, 0⟩ true).toNat? = some w.toNat := by
    simp [Numeral.toNat?]
  have hsize : decide (w.toNat < Nat.pow 2 64) = true := decide_eq_true w.toNat_lt
  rw [Value.tree, Tree.word?, Tree.natBelow?, hnumeral, Option.filter_some, if_pos hsize,
    Option.map_some, UInt64.ofNat_toNat]

theorem optional_nullable_map {α : Type} (read : Tree → Option α) (toTree : α → Tree)
    (h : ∀ a, Tree.nullable? read (toTree a) = some (some a)) (given : Option α) :
    Json.optional none (Tree.nullable? read) (given.map toTree) = some given := by
  cases given with
  | none => rfl
  | some a => exact h a

theorem isFinite_of_float? {t : Tree} {x : Float} (h : t.float? = some x) :
    x.isFinite = true := by
  cases t with
  | number n => exact Numeral.isFinite_of_toFloat? h
  | _ => cases h

theorem isFinite_of_required {given : Option Tree} {x : Float}
    (h : required Tree.float? given = some x) : x.isFinite = true := by
  obtain ⟨t, -, ht⟩ := Option.bind_eq_some_iff.mp h
  exact isFinite_of_float? ht

end Honeypot
