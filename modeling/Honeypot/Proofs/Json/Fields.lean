import Honeypot.Json.Record
import Mathlib.Data.List.Basic

namespace Honeypot.Json.Tree

def IsNamed (names : List String) (member : Content × Tree) : Prop :=
  ∃ name ∈ names, member.1 = some name

def hasName (names : List String) (member : Content × Tree) : Bool :=
  names.any (some · == member.1)

def given (names : List String) (members : List (Content × Tree)) : List Tree :=
  (members.filter (hasName names)).map Prod.snd

/-- The only value, if there is one. Two values are refused. -/
def only? : List Tree → Option (Option Tree)
  | [] => some none
  | [value] => some (some value)
  | _ => none

variable {names : List String} {member member' : Content × Tree}
  {members members' first later : List (Content × Tree)}

theorem IsNamed.isSome (h : IsNamed names member) : member.1.isSome = true := by
  obtain ⟨name, -, hname⟩ := h
  rw [hname]
  rfl

theorem pick?_eq_only? : pick? members names = only? (given names members) := by
  rw [pick?, given]
  split
  · rename_i hnone
    replace hnone : members.filter (hasName names) = [] := hnone
    rw [hnone]
    rfl
  · rename_i member hone
    replace hone : members.filter (hasName names) = [member] := hone
    rw [hone]
    rfl
  · rename_i hnone hone
    rcases hfound : members.filter (hasName names) with _ | ⟨member, _ | ⟨next, rest⟩⟩
    · exact absurd hfound hnone
    · exact absurd hfound (hone member)
    · rfl

theorem hasName_iff : hasName names member = true ↔ IsNamed names member := by
  simp only [hasName, List.any_eq_true, beq_iff_eq]
  exact exists_congr fun name => and_congr_right fun _ => eq_comm

theorem given_append : given names (first ++ later) = given names first ++ given names later := by
  rw [given, List.filter_append, List.map_append]
  rfl

theorem given_cons_of_isNamed (h : IsNamed names member) :
    given names (member :: members) = member.2 :: given names members := by
  rw [given, List.filter_cons_of_pos (hasName_iff.mpr h), List.map_cons]
  rfl

theorem given_cons_of_not_isNamed (h : ¬IsNamed names member) :
    given names (member :: members) = given names members := by
  rw [given, List.filter_cons_of_neg (mt hasName_iff.mp h)]
  rfl

theorem given_ne_nil (hmem : member ∈ members) (h : IsNamed names member) :
    given names members ≠ [] := by
  obtain ⟨first, later, rfl⟩ := List.append_of_mem hmem
  rw [given_append, given_cons_of_isNamed h]
  simp

theorem pick?_perm (h : members.Perm members') : pick? members names = pick? members' names := by
  have hgiven : (given names members).Perm (given names members') := (h.filter _).map _
  rw [pick?_eq_only?, pick?_eq_only?]
  generalize given names members = values at hgiven
  generalize given names members' = values' at hgiven
  have hlength := hgiven.length_eq
  rcases values with _ | ⟨value, _ | ⟨next, rest⟩⟩
  · rw [hgiven.nil_eq]
  · rw [List.singleton_perm.mp hgiven]
  · rcases values' with _ | ⟨value', _ | ⟨next', rest'⟩⟩
    · cases hlength
    · simp at hlength
    · rfl

theorem pick?_rename (h : IsNamed names member ↔ IsNamed names member')
    (hvalue : member.2 = member'.2) :
    pick? (first ++ member :: later) names = pick? (first ++ member' :: later) names := by
  rw [pick?_eq_only?, pick?_eq_only?, given_append, given_append]
  by_cases hnamed : IsNamed names member
  · rw [given_cons_of_isNamed hnamed, given_cons_of_isNamed (h.mp hnamed), hvalue]
  · rw [given_cons_of_not_isNamed hnamed, given_cons_of_not_isNamed (mt h.mpr hnamed)]

theorem pick?_skip (h : ¬IsNamed names member) :
    pick? (first ++ member :: later) names = pick? (first ++ later) names := by
  rw [pick?_eq_only?, pick?_eq_only?, given_append, given_append, given_cons_of_not_isNamed h]

theorem pick?_twice (h : IsNamed names member) (hmem : member' ∈ first ++ later)
    (h' : IsNamed names member') : pick? (first ++ member :: later) names = none := by
  have hne := given_ne_nil hmem h'
  rw [given_append] at hne
  rw [pick?_eq_only?, given_append, given_cons_of_isNamed h]
  generalize given names first = front at hne ⊢
  generalize given names later = rest at hne ⊢
  rcases front with _ | ⟨value, _ | ⟨next, front⟩⟩
  · rcases rest with _ | ⟨value, rest⟩
    · exact absurd rfl hne
    · rfl
  · rfl
  · rfl

theorem pick?_without (h : IsNamed names member)
    (hpick : pick? (first ++ member :: later) names ≠ none) :
    pick? (first ++ later) names = some none := by
  have hnone : ∀ other ∈ first ++ later, ¬IsNamed names other :=
    fun other hmem hother => hpick (pick?_twice h hmem hother)
  have hgiven : given names (first ++ later) = [] := by
    rw [given, List.map_eq_nil_iff, List.filter_eq_nil_iff]
    exact fun other hmem => mt hasName_iff.mp (hnone other hmem)
  rw [pick?_eq_only?, hgiven]
  rfl

end Honeypot.Json.Tree
