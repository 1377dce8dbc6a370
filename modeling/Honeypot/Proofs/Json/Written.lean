import Honeypot.Proofs.Json.Accepted
import Honeypot.Proofs.Json.Cut

namespace Honeypot.Json

open Scanner

theorem Tree.ofText?_eq_some_iff {text : String} {t : Tree} :
    ofText? text = some t ↔ Scans text.toList t.tokens := by
  rw [ofText?, Option.bind_eq_some_iff]
  constructor
  · rintro ⟨tokens, hscan, htokens⟩
    obtain rfl := ofTokens?_eq_some_iff.mp htokens
    exact scan?_eq_some_iff.mp hscan
  · intro h
    exact ⟨t.tokens, scan?_eq_some_iff.mpr h, ofTokens?_tokens t⟩

theorem Tree.ofText?_writeText (text : String) :
    ofText? (String.ofList (writeText text)) = some (.text (some text)) := by
  rw [ofText?_eq_some_iff, String.toList_ofList]
  exact (scansWhole_writeText text).scans

/-- A member as it is written: a text for its name and one for its value, with the white space
around them. -/
structure WrittenMember where
  name : String
  value : String
  content : Content
  tree : Tree
  name_reads : Tree.ofText? name = some (.text content)
  value_reads : Tree.ofText? value = some tree

namespace WrittenMember

def text (m : WrittenMember) : List Char := m.name.toList ++ ':' :: m.value.toList

def read (m : WrittenMember) : Content × Tree := (m.content, m.tree)

def named (m : WrittenMember) (name : String) : WrittenMember :=
  { m with
    name := String.ofList (writeText name)
    content := some name
    name_reads := Tree.ofText?_writeText name }

def ofText (name text : String) : WrittenMember where
  name := String.ofList (writeText name)
  value := String.ofList (writeText text)
  content := some name
  tree := .text (some text)
  name_reads := Tree.ofText?_writeText name
  value_reads := Tree.ofText?_writeText text

theorem scans_text (m : WrittenMember) : Scans m.text (Tree.partTokens m.read) := by
  have hname : Scans m.name.toList [.text m.content] := Tree.ofText?_eq_some_iff.mp m.name_reads
  exact hname.join rfl (Tree.ofText?_eq_some_iff.mp m.value_reads)

theorem exists_of_scans {text : List Char} {member : Content × Tree}
    (h : Scans text (Tree.partTokens member)) :
    ∃ m : WrittenMember, m.text = text ∧ m.read = member := by
  replace h : Scans text ([.text member.1] ++ .colon :: member.2.tokens) := h
  obtain ⟨name, value, rfl, hname, hvalue⟩ := h.cut (c := ':') rfl
  exact ⟨⟨String.ofList name, String.ofList value, member.1, member.2,
    Tree.ofText?_eq_some_iff.mpr (by rwa [String.toList_ofList]),
    Tree.ofText?_eq_some_iff.mpr (by rwa [String.toList_ofList])⟩, by simp [text], rfl⟩

def listText (ms : List WrittenMember) : List Char := [','].intercalate (ms.map text)

theorem scans_listText (ms : List WrittenMember) :
    Scans (listText ms) ([.comma].intercalate ((ms.map read).map Tree.partTokens)) := by
  induction ms with
  | nil => exact scans_nil_iff.mpr (by simp [listText])
  | cons m ms ih =>
      cases ms with
      | nil => simpa [listText] using m.scans_text
      | cons next ms =>
          have hjoin := m.scans_text.join (c := ',') rfl ih
          simpa [listText, List.intercalate_cons_cons] using hjoin

theorem exists_listText {text : List Char} {members : List (Content × Tree)} (hne : members ≠ [])
    (h : Scans text ([.comma].intercalate (members.map Tree.partTokens))) :
    ∃ ms : List WrittenMember, listText ms = text ∧ ms.map read = members := by
  induction members generalizing text with
  | nil => exact absurd rfl hne
  | cons member members ih =>
      cases members with
      | nil =>
          rw [List.map_singleton, List.intercalate_singleton] at h
          obtain ⟨m, rfl, rfl⟩ := exists_of_scans h
          exact ⟨[m], List.intercalate_singleton, rfl⟩
      | cons next members =>
          rw [List.map_cons, List.map_cons, List.intercalate_cons_cons, List.append_assoc] at h
          obtain ⟨front, rest, rfl, hfront, hrest⟩ := h.cut (c := ',') rfl
          obtain ⟨m, rfl, rfl⟩ := exists_of_scans hfront
          obtain ⟨ms, rfl, hms⟩ := ih (by simp) hrest
          cases ms with
          | nil => cases hms
          | cons m' ms =>
              refine ⟨m :: m' :: ms, ?_, congrArg (m.read :: ·) hms⟩
              simp [listText, List.intercalate_cons_cons]

end WrittenMember

/-- An object as it is written, with the white space around it. -/
structure WrittenObject where
  before : List Char
  members : List WrittenMember
  after : List Char
  before_blank : ∀ c ∈ before, isGapChar c = true
  after_blank : ∀ c ∈ after, isGapChar c = true

namespace WrittenObject

def text (o : WrittenObject) : String :=
  String.ofList (o.before ++ '\x7b' :: (WrittenMember.listText o.members ++ '\x7d' :: o.after))

def withMembers (o : WrittenObject) (members : List WrittenMember) : WrittenObject :=
  { o with members }

theorem ofText?_text (o : WrittenObject) :
    Tree.ofText? o.text = some (.object (o.members.map WrittenMember.read)) := by
  rw [Tree.ofText?_eq_some_iff, text, String.toList_ofList, Tree.tokens_object]
  have hafter := (WrittenMember.scans_listText o.members).join (c := '\x7d') rfl
    (scans_nil_iff.mpr o.after_blank)
  exact (scans_nil_iff.mpr o.before_blank).join (c := '\x7b') rfl hafter

theorem exists_text_eq {text : String} {members : List (Content × Tree)} (hne : members ≠ [])
    (h : Tree.ofText? text = some (.object members)) : ∃ o : WrittenObject, o.text = text := by
  rw [Tree.ofText?_eq_some_iff, Tree.tokens_object] at h
  replace h : Scans text.toList ([] ++ .objectStart :: (_ ++ .objectEnd :: [])) := h
  obtain ⟨before, rest, htext, hbefore, hrest⟩ := h.cut (c := '\x7b') rfl
  obtain ⟨inner, after, rfl, hinner, hafter⟩ := hrest.cut (c := '\x7d') rfl
  obtain ⟨ms, rfl, -⟩ := WrittenMember.exists_listText hne hinner
  refine ⟨⟨before, ms, after, scans_nil_iff.mp hbefore, scans_nil_iff.mp hafter⟩, ?_⟩
  rw [WrittenObject.text, ← htext, String.ofList_toList]

example : text ⟨[], [.ofText "a" "b", .ofText "c" "d"], [], by simp, by simp⟩ =
    "\x7b\"a\":\"b\",\"c\":\"d\"\x7d" := by
  decide +kernel

end WrittenObject

end Honeypot.Json
