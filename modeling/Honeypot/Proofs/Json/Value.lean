import Honeypot.Json.Value
import Honeypot.Proofs.Json.Tree
import Honeypot.Proofs.Number.Shortest
import Honeypot.Proofs.StringMap

namespace Honeypot.Json

namespace Value

theorem induction {K : Type} {motive : Value K → Prop} (null : motive .null)
    (bool : ∀ value, motive (.bool value)) (int : ∀ value, motive (.int value))
    (real : ∀ value, motive (.real value)) (text : ∀ value, motive (.text value))
    (array : ∀ items : List (Value K), (∀ item ∈ items, motive item) → motive (.array items))
    (object : ∀ members : List (String × Value K), (∀ member ∈ members, motive member.2) →
      motive (.object members)) (v : Value K) : motive v := by
  refine Value.rec (motive_1 := motive) (motive_2 := fun items => ∀ item ∈ items, motive item)
    (motive_3 := fun members => ∀ member ∈ members, motive member.2)
    (motive_4 := fun member => motive member.2) null bool int real text array object
    ?_ ?_ ?_ ?_ ?_ v
  · intro item h
    cases h
  · intro head tail hhead htail
    exact List.forall_mem_cons.mpr ⟨hhead, htail⟩
  · intro member h
    cases h
  · intro head tail hhead htail
    exact List.forall_mem_cons.mpr ⟨hhead, htail⟩
  · intro name value hvalue
    exact hvalue

/-- The number that the text of a finite double is read as. -/
def realTree (x : Float) : Tree :=
  match if x.isFinite then Numeral.ofText? (Double.write x) else none with
  | some n => .number n
  | none => .null

mutual

def tree : Value Float → Tree
  | .null => .null
  | .bool value => .bool value
  | .int n => .number ⟨decide (n < 0), ⟨n.natAbs, 0⟩, true⟩
  | .real x => realTree x
  | .text t => .text (some t)
  | .array items => .array (itemTrees items)
  | .object members => .object (memberTrees members)

def itemTrees : List (Value Float) → List Tree
  | [] => []
  | item :: items => tree item :: itemTrees items

def memberTrees : List (String × Value Float) → List (Content × Tree)
  | [] => []
  | (name, value) :: members => (some name, tree value) :: memberTrees members

end

@[simp] theorem itemTrees_eq_map (items : List (Value Float)) :
    itemTrees items = items.map tree := by
  induction items with
  | nil => rfl
  | cons item items ih => rw [itemTrees, ih, List.map_cons]

@[simp] theorem memberTrees_eq_map (members : List (String × Value Float)) :
    memberTrees members = members.map fun member => (some member.1, member.2.tree) := by
  induction members with
  | nil => rfl
  | cons member members ih => rw [memberTrees, ih, List.map_cons]

theorem exists_realTree {x : Float} (h : x.isFinite = true) :
    ∃ n, Numeral.ofText? (Double.write x) = some n ∧ n.integral = false ∧ n.toFloat? = some x ∧
      realTree x = .number n := by
  obtain ⟨n, htext, hintegral, hvalue⟩ := Double.ofText?_write h
  refine ⟨n, htext, hintegral, hvalue, ?_⟩
  rw [realTree, if_pos h, htext]

section Scanning

open Scanner

/-- The text of a value is scanned to the tokens of its tree. -/
def IsScanned (v : Value Float) : Prop := Scans v.write v.tree.tokens

theorem scans_writeInt (n : Int) :
    Scans (writeInt n) [.number ⟨decide (n < 0), ⟨n.natAbs, 0⟩, true⟩] := by
  have hwrite : writeInt n = writtenSign (decide (n < 0)) ++ digitsOf n.natAbs := by
    unfold writeInt writtenSign
    by_cases h : n < 0 <;> simp [h]
  rw [hwrite]
  exact scans_number (Numeral.ofText?_integer _ _)

theorem scans_null : Scans ['n', 'u', 'l', 'l'] [.null] :=
  scans_word (List.cons_ne_nil _ _) (List.all_eq_true.mp rfl) rfl

theorem scans_writeReal (x : Float) : Scans (writeReal x) (realTree x).tokens := by
  by_cases h : x.isFinite = true
  · obtain ⟨n, htext, -, -, htree⟩ := exists_realTree h
    rw [writeReal, if_pos h, htree]
    exact scans_number htext
  · rw [writeReal, if_neg h, realTree, if_neg h]
    exact scans_null

theorem scansWhole_writeItems {items : List (Value Float)} (h : ∀ item ∈ items, IsScanned item) :
    ∃ c rest, writeItems items = c :: rest ∧ isBareChar c = false ∧
      ScansWhole (c :: rest) (Tree.itemTokens (itemTrees items)) := by
  induction items with
  | nil => exact ⟨']', [], rfl, rfl, scansWhole_mark rfl ⟨rfl, rfl, rfl⟩⟩
  | cons item items ih =>
      obtain ⟨hitem, hitems⟩ := List.forall_mem_cons.mp h
      obtain ⟨c, rest, hwrite, hbare, hscan⟩ := ih hitems
      have hcomma : ScansWhole [','] [.comma] := scansWhole_mark rfl ⟨rfl, rfl, rfl⟩
      refine ⟨',', item.write ++ (c :: rest), ?_, rfl, ?_⟩
      · rw [writeItems, hwrite]
      · exact hcomma.append (hitem.append hbare hscan)

theorem scansWhole_name (name : String) :
    ScansWhole (writeText name ++ [':']) [.text (some name), .colon] :=
  (scansWhole_writeText name).append (scansWhole_mark rfl ⟨rfl, rfl, rfl⟩)

theorem scansWhole_writeMembers {members : List (String × Value Float)}
    (h : ∀ member ∈ members, IsScanned member.2) :
    ∃ c rest, writeMembers members = c :: rest ∧ isBareChar c = false ∧
      ScansWhole (c :: rest) (Tree.memberTokens (memberTrees members)) := by
  induction members with
  | nil => exact ⟨'\x7d', [], rfl, rfl, scansWhole_mark rfl ⟨rfl, rfl, rfl⟩⟩
  | cons member members ih =>
      obtain ⟨name, value⟩ := member
      obtain ⟨hvalue, hmembers⟩ := List.forall_mem_cons.mp h
      obtain ⟨c, rest, hwrite, hbare, hscan⟩ := ih hmembers
      have hcomma : ScansWhole [','] [.comma] := scansWhole_mark rfl ⟨rfl, rfl, rfl⟩
      refine ⟨',', (writeText name ++ [':']) ++ (value.write ++ (c :: rest)), ?_, rfl, ?_⟩
      · rw [writeMembers, hwrite, List.append_assoc, List.singleton_append]
      · exact hcomma.append ((scansWhole_name name).append (hvalue.append hbare hscan))

theorem isScanned (v : Value Float) : IsScanned v := by
  induction v using Value.induction with
  | null => exact scans_null
  | bool value =>
    cases value <;> exact scans_word (List.cons_ne_nil _ _) (List.all_eq_true.mp rfl) rfl
  | int n => exact scans_writeInt n
  | real x => exact scans_writeReal x
  | text t => exact (scansWhole_writeText t).scans
  | array items ih =>
      have hopen : ScansWhole ['['] [.arrayStart] := scansWhole_mark rfl ⟨rfl, rfl, rfl⟩
      cases items with
      | nil => exact (hopen.append (scansWhole_mark rfl ⟨rfl, rfl, rfl⟩)).scans
      | cons item items =>
          obtain ⟨hitem, hitems⟩ := List.forall_mem_cons.mp ih
          obtain ⟨c, rest, hwrite, hbare, hscan⟩ := scansWhole_writeItems hitems
          show Scans ('[' :: (item.write ++ writeItems items)) _
          rw [hwrite]
          exact (hopen.append (hitem.append hbare hscan)).scans
  | object members ih =>
      have hopen : ScansWhole ['\x7b'] [.objectStart] := scansWhole_mark rfl ⟨rfl, rfl, rfl⟩
      cases members with
      | nil => exact (hopen.append (scansWhole_mark rfl ⟨rfl, rfl, rfl⟩)).scans
      | cons member members =>
          obtain ⟨name, value⟩ := member
          obtain ⟨hvalue, hmembers⟩ := List.forall_mem_cons.mp ih
          obtain ⟨c, rest, hwrite, hbare, hscan⟩ := scansWhole_writeMembers hmembers
          have hsplit : Value.write (.object ((name, value) :: members)) =
              ['\x7b'] ++ ((writeText name ++ [':']) ++ (value.write ++ (c :: rest))) := by
            rw [write, hwrite, List.append_assoc, List.singleton_append, List.singleton_append]
          rw [IsScanned, hsplit]
          exact (hopen.append ((scansWhole_name name).append (hvalue.append hbare hscan))).scans

/-- Every value is written as a text, and this text is read as the tree of the value. -/
theorem ofText?_toText (v : Value Float) : Tree.ofText? v.toText = some v.tree := by
  rw [Tree.ofText?, toText, String.toList_ofList, scan?_of_scans v.isScanned, Option.bind_some,
    Tree.ofTokens?_tokens]

end Scanning

/-- A value that a text can carry, in which at most so many arrays and objects are open at once:
its integers have at most 64 bits, its other numbers are finite, and its members are in order. -/
inductive Fits : Nat → Value Float → Prop
  | null (levels : Nat) : Fits levels .null
  | bool (levels : Nat) (value : Bool) : Fits levels (.bool value)
  | int (levels : Nat) {n : Int} (h : -Nat.pow 2 63 ≤ n ∧ n < Nat.pow 2 64) : Fits levels (.int n)
  | real (levels : Nat) {x : Float} (h : x.isFinite = true) : Fits levels (.real x)
  | text (levels : Nat) (t : String) : Fits levels (.text t)
  | array {levels : Nat} {items : List (Value Float)} (h : ∀ item ∈ items, Fits levels item) :
      Fits (levels + 1) (.array items)
  | object {levels : Nat} {members : List (String × Value Float)}
      (sorted : members.Pairwise fun a b => a.1 < b.1)
      (h : ∀ member ∈ members, Fits levels member.2) : Fits (levels + 1) (.object members)

theorem ofNumeral?_int {n : Int} (h : -Nat.pow 2 63 ≤ n ∧ n < Nat.pow 2 64) :
    ofNumeral? ⟨decide (n < 0), ⟨n.natAbs, 0⟩, true⟩ = some (.int n) := by
  obtain ⟨hlow, hhigh⟩ := h
  by_cases hneg : n < 0
  · have hsize : 0 < n.natAbs ∧ n.natAbs ≤ Nat.pow 2 63 := by omega
    have hvalue : -(n.natAbs : Int) = n := by omega
    simp only [ofNumeral?, hneg, hsize, hvalue]
    rfl
  · have hsize : n.natAbs < Nat.pow 2 64 := by omega
    have hvalue : (n.natAbs : Int) = n := by omega
    simp only [ofNumeral?, hneg, hsize, hvalue]
    rfl

theorem ofNumeral?_real {n : Numeral} {x : Float} (hintegral : n.integral = false)
    (hvalue : n.toFloat? = some x) : ofNumeral? n = some (.real x) := by
  simp [ofNumeral?, hintegral, hvalue]

theorem fits_of_ofNumeral? {n : Numeral} {v : Value Float} (h : ofNumeral? n = some v)
    (levels : Nat) : Fits levels v := by
  simp only [ofNumeral?] at h
  split at h
  · rename_i hsize
    simp only [Bool.and_eq_true, decide_eq_true_eq] at hsize
    obtain rfl := Option.some.inj h
    exact .int levels (by omega)
  · split at h
    · rename_i hsize
      simp only [Bool.and_eq_true, decide_eq_true_eq] at hsize
      obtain rfl := Option.some.inj h
      exact .int levels (by omega)
    · obtain ⟨x, hx, rfl⟩ := Option.map_eq_some_iff.mp h
      exact .real levels (Numeral.isFinite_of_toFloat? hx)

theorem ofItems?_eq_mapM (levels : Nat) (items : List Tree) :
    ofItems? levels items = items.mapM (ofTree? levels) := by
  induction items with
  | nil => rfl
  | cons item items ih =>
      rw [ofItems?, List.mapM_cons, ih]
      cases ofTree? levels item with
      | none => rfl
      | some value => cases items.mapM (ofTree? levels) <;> rfl

def IsReadBack (levels : Nat) (v : Value Float) : Prop := ofTree? levels v.tree = some v

theorem ofItems?_trees {levels : Nat} {items : List (Value Float)}
    (h : ∀ item ∈ items, IsReadBack levels item) :
    ofItems? levels (itemTrees items) = some items := by
  induction items with
  | nil => rfl
  | cons item items ih =>
      obtain ⟨hitem, hitems⟩ := List.forall_mem_cons.mp h
      rw [itemTrees, ofItems?, hitem, ih hitems]
      rfl

theorem ofMembers?_trees {levels : Nat} {members : List (String × Value Float)}
    (sorted : members.Pairwise fun a b => a.1 < b.1)
    (h : ∀ member ∈ members, IsReadBack levels member.2) :
    ofMembers? levels (memberTrees members) = some ⟨members, sorted⟩ := by
  induction members with
  | nil => rfl
  | cons member members ih =>
      obtain ⟨name, value⟩ := member
      obtain ⟨hvalue, hmembers⟩ := List.forall_mem_cons.mp h
      obtain ⟨hfirst, hsorted⟩ := List.pairwise_cons.mp sorted
      have habsent : (⟨members, hsorted⟩ : StringMap (Value Float)).find? name = none := by
        rw [StringMap.find?_eq_none_iff]
        intro other hmem
        exact String.lt_irrefl name (hfirst (name, other) hmem)
      have hread : ofTree? levels value.tree = some value := hvalue
      simp only [memberTrees, ofMembers?, hread, ih hsorted hmembers, Option.map_some, habsent,
        Option.isSome_none]
      exact congrArg some (StringMap.ext (StringMap.insertEntry_of_lt hfirst))

theorem ofTree?_tree {levels : Nat} {v : Value Float} (h : Fits levels v) :
    ofTree? levels v.tree = some v := by
  induction h with
  | null | bool | text => rfl
  | int levels h => exact ofNumeral?_int h
  | real levels h =>
      obtain ⟨n, -, hintegral, hvalue, htree⟩ := exists_realTree h
      rw [tree, htree]
      exact ofNumeral?_real hintegral hvalue
  | array h ih =>
      rw [tree, ofTree?, ofItems?_trees ih]
      rfl
  | object sorted h ih =>
      rw [tree, ofTree?, ofMembers?_trees sorted ih]
      rfl

theorem fits_of_ofMembers? {levels : Nat} {members : List (Content × Tree)}
    (h : ∀ member ∈ members, ∀ v, ofTree? levels member.2 = some v → Fits levels v)
    {entries : StringMap (Value Float)} (hread : ofMembers? levels members = some entries) :
    ∀ entry ∈ entries.entries, Fits levels entry.2 := by
  induction members generalizing entries with
  | nil =>
      obtain rfl := Option.some.inj hread
      intro entry hmem
      cases hmem
  | cons member members ih =>
      obtain ⟨name, t⟩ := member
      obtain ⟨hvalue, hmembers⟩ := List.forall_mem_cons.mp h
      unfold ofMembers? at hread
      split at hread
      · rename_i hread'
        obtain ⟨later, hlater, rfl⟩ := Option.map_eq_some_iff.mp hread
        have hfits := ih hmembers hlater
        split
        · exact hfits
        · intro entry hmem
          rcases StringMap.mem_insertEntry hmem with rfl | hmem
          · exact hvalue _ hread'
          · exact hfits entry hmem
      · cases hread

theorem fits_of_ofTree? (t : Tree) {levels : Nat} {v : Value Float}
    (h : ofTree? levels t = some v) : Fits levels v := by
  induction t using Tree.induction generalizing levels v with
  | null =>
      obtain rfl := Option.some.inj h
      exact .null levels
  | bool value =>
      obtain rfl := Option.some.inj h
      exact .bool levels value
  | number n => exact fits_of_ofNumeral? h levels
  | text content =>
      obtain ⟨t, -, rfl⟩ := Option.map_eq_some_iff.mp h
      exact .text levels t
  | array items ih =>
      unfold ofTree? at h
      split at h
      · cases h
      · rename_i below
        obtain ⟨values, hvalues, rfl⟩ := Option.map_eq_some_iff.mp h
        rw [ofItems?_eq_mapM] at hvalues
        refine .array fun value hvalue => ?_
        obtain ⟨item, hitem, hread⟩ := exists_of_mem_mapM hvalues hvalue
        exact ih item hitem hread
  | object members ih =>
      unfold ofTree? at h
      split at h
      · cases h
      · obtain ⟨entries, hentries, rfl⟩ := Option.map_eq_some_iff.mp h
        exact .object entries.sorted
          (fits_of_ofMembers? (fun member hmem v hv => ih member hmem hv) hentries)

end Value

end Honeypot.Json
