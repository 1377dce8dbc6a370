import Honeypot.Contract.Transaction
import Honeypot.Proofs.Json.Fields
import Honeypot.Proofs.Json.Written
import Honeypot.Proofs.Traverse
import Mathlib.Logic.Relation

namespace Honeypot.Transaction

open Honeypot.Json

inductive Field
  | hash
  | sender
  | recipient
  | value
  | input
  | blockNumber
  | timestamp
  | succeeded
deriving DecidableEq

namespace Field

def names : Field → List String
  | hash => ["hash"]
  | sender => ["from", "from_address"]
  | recipient => ["to", "to_address"]
  | value => ["value"]
  | input => ["input", "input_data"]
  | blockNumber => ["block_number"]
  | timestamp => ["timestamp"]
  | succeeded => ["receipt_status"]

/-- A transaction without one of its fields: there is none where the field has to be given, and
elsewhere only this field has its default. -/
def without (f : Field) (t : Transaction) : Option Transaction :=
  match f with
  | hash | sender | timestamp => none
  | recipient => some { t with recipient := none }
  | value => some { t with value := Wei.zero }
  | input => some { t with input := "" }
  | blockNumber => some { t with blockNumber := 0 }
  | succeeded => some { t with succeeded := none }

/-- A field of a transaction is as given for it. -/
def Holds (f : Field) (given : Option Tree) (t : Transaction) : Prop :=
  match f with
  | hash => required TxHash.ofTree? given = some t.hash
  | sender => required Address.ofTree? given = some t.sender
  | recipient => Json.optional none (Tree.nullable? Address.ofTree?) given = some t.recipient
  | value => Json.optional Wei.zero Wei.ofTree? given = some t.value
  | input => Json.optional "" Tree.text? given = some t.input
  | blockNumber => Json.optional 0 Tree.word? given = some t.blockNumber
  | timestamp => required Tree.word? given = some t.timestamp
  | succeeded => Json.optional none (Tree.nullable? Tree.bool?) given = some t.succeeded

/-- No two fields share a name. -/
theorem eq_of_isNamed {f g : Field} {member : Content × Tree} (hf : Tree.IsNamed f.names member)
    (hg : Tree.IsNamed g.names member) : f = g := by
  obtain ⟨name, hname, hcontent⟩ := hf
  obtain ⟨name', hname', hcontent'⟩ := hg
  obtain rfl := Option.some.inj (hcontent.symm.trans hcontent')
  revert name
  cases f <;> cases g <;> simp [names]

end Field

def fields : List Field :=
  [.hash, .sender, .recipient, .value, .input, .blockNumber, .timestamp, .succeeded]

theorem mem_fields (f : Field) : f ∈ fields := by
  cases f <;> decide

theorem ofTree?_eq_some_iff_of_fields? {tree : Tree} {given : Field → Option Tree}
    (h : tree.fields? (fields.map Field.names) = some (fields.map given)) {t : Transaction} :
    ofTree? tree = some t ↔ ∀ f : Field, f.Holds (given f) t := by
  change tree.fields? [["hash"], ["from", "from_address"], ["to", "to_address"], ["value"],
    ["input", "input_data"], ["block_number"], ["timestamp"], ["receipt_status"]] = _ at h
  simp only [ofTree?, h, fields, List.map_cons, List.map_nil, Option.bind_eq_bind,
    Option.bind_some, Option.bind_eq_some_iff]
  constructor
  · rintro ⟨hash, hhash, sender, hsender, recipient, hrecipient, value, hvalue, input, hinput,
      blockNumber, hblockNumber, timestamp, htimestamp, succeeded, hsucceeded, ht⟩ f
    obtain rfl := Option.some.inj ht
    cases f with
    | hash => exact hhash
    | sender => exact hsender
    | recipient => exact hrecipient
    | value => exact hvalue
    | input => exact hinput
    | blockNumber => exact hblockNumber
    | timestamp => exact htimestamp
    | succeeded => exact hsucceeded
  · intro h
    exact ⟨_, h .hash, _, h .sender, _, h .recipient, _, h .value, _, h .input, _,
      h .blockNumber, _, h .timestamp, _, h .succeeded, rfl⟩

theorem fields?_object_eq_some_iff {members : List (Content × Tree)}
    {results : List (Option Tree)} :
    (Tree.object members).fields? (fields.map Field.names) = some results ↔
      (∀ member ∈ members, member.1.isSome = true) ∧
      ∃ given : Field → Option Tree, results = fields.map given ∧
        ∀ f : Field, Tree.pick? members f.names = some (given f) := by
  have hall : members.all (·.1.isSome) = true ↔ ∀ member ∈ members, member.1.isSome = true :=
    List.all_eq_true
  rw [Tree.fields?, Option.ite_none_right_eq_some, hall]
  refine and_congr_right fun _ => ?_
  constructor
  · intro h
    have hmap := mapM_eq_some_iff.mp h
    rw [List.map_map] at hmap
    have hpick (f : Field) : ∃ given, Tree.pick? members f.names = some given := by
      have hmem : Tree.pick? members f.names ∈ results.map some :=
        hmap ▸ List.mem_map_of_mem (f := Tree.pick? members ∘ Field.names) (mem_fields f)
      obtain ⟨given, -, hgiven⟩ := List.mem_map.mp hmem
      exact ⟨given, hgiven.symm⟩
    choose given hgiven using hpick
    refine ⟨given, List.map_injective_iff.mpr (fun _ _ => Option.some.inj) ?_, hgiven⟩
    rw [← hmap, List.map_map]
    exact List.map_congr_left fun f _ => hgiven f
  · rintro ⟨given, rfl, hgiven⟩
    exact mapM_map_eq_some fun f _ => hgiven f

/-- An object is read as a transaction where each of its members has a name and each field is as
given by the only member for it. -/
theorem ofTree?_object_eq_some_iff {members : List (Content × Tree)} {t : Transaction} :
    ofTree? (.object members) = some t ↔
      (∀ member ∈ members, member.1.isSome = true) ∧
      ∀ f : Field, ∃ given, Tree.pick? members f.names = some given ∧ f.Holds given t := by
  constructor
  · intro h
    obtain ⟨results, hresults, -⟩ := Option.bind_eq_some_iff.mp h
    obtain ⟨hall, given, rfl, hgiven⟩ := fields?_object_eq_some_iff.mp hresults
    have hholds := (ofTree?_eq_some_iff_of_fields? hresults).mp h
    exact ⟨hall, fun f => ⟨given f, hgiven f, hholds f⟩⟩
  · rintro ⟨hall, h⟩
    choose given hgiven hholds using h
    exact (ofTree?_eq_some_iff_of_fields?
      (fields?_object_eq_some_iff.mpr ⟨hall, given, rfl, hgiven⟩)).mpr hholds

theorem ofTree?_object_congr {members members' : List (Content × Tree)}
    (hnames : (∀ member ∈ members, member.1.isSome = true) ↔
      ∀ member ∈ members', member.1.isSome = true)
    (hpick : ∀ f : Field, Tree.pick? members f.names = Tree.pick? members' f.names) :
    ofTree? (.object members) = ofTree? (.object members') := by
  refine Option.ext fun t => ?_
  simp only [ofTree?_object_eq_some_iff, hnames, hpick]

variable {first later : List (Content × Tree)} {member other : Content × Tree} {f : Field}

theorem ofTree?_object_twice (h : Tree.IsNamed f.names member) (hother : other ∈ first ++ later)
    (h' : Tree.IsNamed f.names other) : ofTree? (.object (first ++ member :: later)) = none := by
  refine Option.eq_none_iff_forall_ne_some.mpr fun t ht => ?_
  obtain ⟨given, hgiven, -⟩ := (ofTree?_object_eq_some_iff.mp ht).2 f
  rw [Tree.pick?_twice h hother h'] at hgiven
  cases hgiven

/-- Without a field that has to be given there is no transaction, and without any other field
there is one that differs in this field only. -/
theorem Field.without_cases (f : Field) (t : Transaction) :
    (f.without t = none ∧ ∀ t', ¬f.Holds none t') ∨
    ∃ t', f.without t = some t' ∧ f.Holds none t' ∧
      ∀ g, g ≠ f → ∀ given, g.Holds given t → g.Holds given t' := by
  cases f with
  | hash | sender | timestamp =>
      refine .inl ⟨rfl, fun t' h => ?_⟩
      cases h
  | _ =>
      refine .inr ⟨_, rfl, rfl, fun g hg given h => ?_⟩
      cases g <;> first | exact h | exact absurd rfl hg

theorem ofTree?_object_without {t : Transaction} (h : Tree.IsNamed f.names member)
    (ht : ofTree? (.object (first ++ member :: later)) = some t) :
    ofTree? (.object (first ++ later)) = f.without t := by
  obtain ⟨hnames, hfields⟩ := ofTree?_object_eq_some_iff.mp ht
  have hpick : Tree.pick? (first ++ later) f.names = some none := by
    obtain ⟨given, hgiven, -⟩ := hfields f
    exact Tree.pick?_without h (by rw [hgiven]; exact Option.some_ne_none _)
  rcases f.without_cases t with ⟨hnone, hrequired⟩ | ⟨t', hwithout, hdefault, hframe⟩
  · rw [hnone]
    refine Option.eq_none_iff_forall_ne_some.mpr fun t' ht' => ?_
    obtain ⟨given, hgiven, hholds⟩ := (ofTree?_object_eq_some_iff.mp ht').2 f
    obtain rfl := Option.some.inj (hpick.symm.trans hgiven)
    exact hrequired t' hholds
  · rw [hwithout, ofTree?_object_eq_some_iff]
    refine ⟨fun m hm => hnames m (List.mem_append.mpr ?_), fun g => ?_⟩
    · exact (List.mem_append.mp hm).imp_right (List.mem_cons_of_mem _)
    · by_cases hg : g = f
      · rw [hg]
        exact ⟨none, hpick, hdefault⟩
      · obtain ⟨given, hgiven, hholds⟩ := hfields g
        rw [Tree.pick?_skip fun hnamed => hg (Field.eq_of_isNamed hnamed h)] at hgiven
        exact ⟨given, hgiven, hframe g hg given hholds⟩

theorem ofTree?_object_skip (hname : member.1.isSome = true)
    (h : ∀ f : Field, ¬Tree.IsNamed f.names member) :
    ofTree? (.object (first ++ member :: later)) = ofTree? (.object (first ++ later)) := by
  refine ofTree?_object_congr ?_ fun f => Tree.pick?_skip (h f)
  simp only [List.forall_mem_append, List.forall_mem_cons, hname, true_and]

def ofText? (text : String) : Option Transaction := (Tree.ofText? text).bind ofTree?

theorem ofText?_written (o : WrittenObject) :
    ofText? o.text = ofTree? (.object (o.members.map WrittenMember.read)) := by
  rw [ofText?, o.ofText?_text, Option.bind_some]

theorem ofText?_withMembers (o : WrittenObject) (ms : List WrittenMember) :
    ofText? (o.withMembers ms).text = ofTree? (.object (ms.map WrittenMember.read)) :=
  ofText?_written (o.withMembers ms)

/-- A written member is for a field, under any of its names. -/
def Field.IsFor (f : Field) (m : WrittenMember) : Prop := Tree.IsNamed f.names m.read

/-- A written member has a name, which is that of no field. -/
def IsForeign (m : WrittenMember) : Prop := m.content.isSome = true ∧ ∀ f : Field, ¬f.IsFor m

/-- One change to the members of a written object: another order, another name for one of the
fields, or one more member with a name that no field has. -/
inductive Respelled : List WrittenMember → List WrittenMember → Prop
  | order {ms ms' : List WrittenMember} (h : ms.Perm ms') : Respelled ms ms'
  | name {first later : List WrittenMember} {m m' : WrittenMember} (f : Field) (h : f.IsFor m)
      (h' : f.IsFor m') (hvalue : m.value = m'.value) :
      Respelled (first ++ m :: later) (first ++ m' :: later)
  | foreign {first later : List WrittenMember} {m : WrittenMember} (h : IsForeign m) :
      Respelled (first ++ later) (first ++ m :: later)

theorem Respelled.ofTree?_eq {ms ms' : List WrittenMember} (h : Respelled ms ms') :
    ofTree? (.object (ms'.map WrittenMember.read)) =
      ofTree? (.object (ms.map WrittenMember.read)) := by
  cases h with
  | order h =>
      have hread := h.map WrittenMember.read
      refine ofTree?_object_congr ?_ fun f => (Tree.pick?_perm hread).symm
      simp only [hread.mem_iff]
  | @name first later m m' f h h' hvalue =>
      have htree : m.tree = m'.tree :=
        Option.some.inj (m.value_reads.symm.trans (hvalue ▸ m'.value_reads))
      have hother {g : Field} {m m' : WrittenMember} (h : f.IsFor m) (h' : f.IsFor m')
          (hg : Tree.IsNamed g.names m.read) : Tree.IsNamed g.names m'.read := by
        rwa [Field.eq_of_isNamed hg h]
      simp only [List.map_append, List.map_cons]
      refine ofTree?_object_congr ?_ fun g =>
        Tree.pick?_rename ⟨hother h' h, hother h h'⟩ htree.symm
      simp only [List.forall_mem_append, List.forall_mem_cons, h.isSome, h'.isSome]
  | foreign h =>
      simp only [List.map_append, List.map_cons]
      exact ofTree?_object_skip h.1 h.2

theorem ofTree?_eq_of_respelled {ms ms' : List WrittenMember}
    (h : Relation.ReflTransGen Respelled ms ms') :
    ofTree? (.object (ms'.map WrittenMember.read)) =
      ofTree? (.object (ms.map WrittenMember.read)) := by
  induction h with
  | refl => rfl
  | tail _ hstep ih => rw [hstep.ofTree?_eq, ih]

theorem members_ne_nil {members : List (Content × Tree)} {t : Transaction}
    (h : ofTree? (.object members) = some t) : members ≠ [] := by
  rintro rfl
  obtain ⟨given, hgiven, hholds⟩ := (ofTree?_object_eq_some_iff.mp h).2 .hash
  obtain rfl := Option.some.inj hgiven
  cases hholds

/-- A text of an object that is read as a transaction is a list of written members, and however
these are changed, what is then read is known. Any number of changes to the order, of other names
for a field and of further members with names that no field has makes no difference, and neither
does it to leave out such a member; a second member for a field is refused; and to leave out the
member for a field gives the transaction without this field, if it can do without. -/
theorem ofText?_respelled {text : String} {members : List (Content × Tree)} {t : Transaction}
    (hobject : Tree.ofText? text = some (.object members)) (ht : ofText? text = some t) :
    (∃ o : WrittenObject, o.text = text) ∧
    ∀ o : WrittenObject, o.text = text →
      (∀ ms, Relation.ReflTransGen Respelled o.members ms →
        ofText? (o.withMembers ms).text = some t) ∧
      (∀ f : Field, ∀ first m later, o.members = first ++ later → f.IsFor m →
        (∃ other ∈ o.members, f.IsFor other) →
        ofText? (o.withMembers (first ++ m :: later)).text = none) ∧
      (∀ f : Field, ∀ first m later, o.members = first ++ m :: later → f.IsFor m →
        ofText? (o.withMembers (first ++ later)).text = f.without t) ∧
      ∀ first m later, o.members = first ++ m :: later → (∀ f : Field, ¬f.IsFor m) →
        ofText? (o.withMembers (first ++ later)).text = some t := by
  have hmembers : ofTree? (.object members) = some t := by
    rwa [ofText?, hobject, Option.bind_some] at ht
  refine ⟨WrittenObject.exists_text_eq (members_ne_nil hmembers) hobject, ?_⟩
  rintro o rfl
  rw [ofText?_written] at ht
  refine ⟨?_, ?_, ?_, ?_⟩
  · intro ms hms
    rw [ofText?_withMembers]
    exact (ofTree?_eq_of_respelled hms).trans ht
  · rintro f first m later ho hm ⟨other, hother, hfor⟩
    have hmem : other.read ∈ first.map WrittenMember.read ++ later.map WrittenMember.read := by
      rw [← List.map_append, ← ho]
      exact List.mem_map_of_mem hother
    rw [ofText?_withMembers, List.map_append, List.map_cons]
    exact ofTree?_object_twice hm hmem hfor
  · intro f first m later ho hm
    rw [ho, List.map_append, List.map_cons] at ht
    rw [ofText?_withMembers, List.map_append]
    exact ofTree?_object_without hm ht
  · intro first m later ho hm
    rw [ho, List.map_append, List.map_cons] at ht
    have hname := (ofTree?_object_eq_some_iff.mp ht).1 m.read (by simp)
    rw [ofText?_withMembers, List.map_append, ← ofTree?_object_skip hname hm, ht]

namespace Creation

/-!
The creation of a contract, as it is written with what has to be given and nothing else, and a
note of which no transaction knows.
-/

def hash : WrittenMember := .ofText "hash" (TxHash.write ⟨1⟩)

def sender : WrittenMember := .ofText "from" (Address.write ⟨2⟩)

def timestamp : WrittenMember :=
  ⟨"\"timestamp\"", "3", some "timestamp", .number ⟨false, ⟨3, 0⟩, true⟩, rfl, rfl⟩

def note : WrittenMember := ⟨"\"note\"", "[ null ]", some "note", .array [.null], rfl, rfl⟩

def written : WrittenObject := ⟨[], [hash, sender, timestamp], [], by simp, by simp⟩

def read : Transaction := ⟨⟨1⟩, ⟨2⟩, none, .zero, "", 0, 3, none⟩

theorem note_isForeign : IsForeign note := by
  refine ⟨rfl, ?_⟩
  rintro f ⟨name, hname, hnote⟩
  obtain rfl := Option.some.inj hnote
  cases f <;> exact absurd hname (by decide)

theorem respelled : Relation.ReflTransGen Respelled written.members
    [timestamp, sender.named "from_address", hash, note] := by
  have hname : Respelled ([hash] ++ sender :: [timestamp])
      ([hash] ++ sender.named "from_address" :: [timestamp]) :=
    .name .sender ⟨"from", by decide, rfl⟩ ⟨"from_address", by decide, rfl⟩ rfl
  have hforeign : Respelled ([] ++ [hash, sender.named "from_address", timestamp])
      ([] ++ note :: [hash, sender.named "from_address", timestamp]) := .foreign note_isForeign
  have horder : Respelled [note, hash, sender.named "from_address", timestamp]
      [timestamp, sender.named "from_address", hash, note] := .order (List.reverse_perm _).symm
  exact ((Relation.ReflTransGen.single hname).tail hforeign).tail horder

end Creation

/-- The creation is read alike with the other name of its sender, a note, and its members turned
around; without its sender it is not read, nor with a second one. -/
theorem ofText?_respelled_creation :
    ofText? Creation.written.text = some Creation.read ∧
    ofText? (Creation.written.withMembers [Creation.timestamp,
      Creation.sender.named "from_address", Creation.hash, Creation.note]).text =
        some Creation.read ∧
    ofText? (Creation.written.withMembers [Creation.hash, Creation.timestamp]).text = none ∧
    ofText? (Creation.written.withMembers [Creation.hash, Creation.sender, Creation.timestamp,
      Creation.sender.named "from_address"]).text = none := by
  have ht : ofText? Creation.written.text = some Creation.read := by
    rw [ofText?_written]
    decide +kernel
  obtain ⟨hrespelled, htwice, hwithout, -⟩ :=
    (ofText?_respelled Creation.written.ofText?_text ht).2 Creation.written rfl
  have hsender : Field.sender.IsFor Creation.sender := ⟨"from", by decide, rfl⟩
  have hrenamed : Field.sender.IsFor (Creation.sender.named "from_address") :=
    ⟨"from_address", by decide, rfl⟩
  refine ⟨ht, hrespelled _ Creation.respelled, ?_, ?_⟩
  · exact hwithout .sender [Creation.hash] Creation.sender [Creation.timestamp] rfl hsender
  · exact htwice .sender [Creation.hash, Creation.sender, Creation.timestamp] _ [] rfl hrenamed
      ⟨Creation.sender, by simp [Creation.written], hsender⟩

end Honeypot.Transaction
