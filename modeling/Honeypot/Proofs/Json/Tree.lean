import Honeypot.Json.Tree
import Honeypot.Proofs.Json.Token

namespace Honeypot.Json

namespace Tree

theorem induction {motive : Tree → Prop} (null : motive .null)
    (bool : ∀ value, motive (.bool value)) (number : ∀ value, motive (.number value))
    (text : ∀ content, motive (.text content))
    (array : ∀ items : List Tree, (∀ item ∈ items, motive item) → motive (.array items))
    (object : ∀ members : List (Content × Tree), (∀ member ∈ members, motive member.2) →
      motive (.object members)) (t : Tree) : motive t := by
  refine Tree.rec (motive_1 := motive) (motive_2 := fun items => ∀ item ∈ items, motive item)
    (motive_3 := fun members => ∀ member ∈ members, motive member.2)
    (motive_4 := fun member => motive member.2)
    null bool number text array object ?_ ?_ ?_ ?_ ?_ t
  · intro item h
    cases h
  · intro head tail hhead htail
    exact List.forall_mem_cons.mpr ⟨hhead, htail⟩
  · intro member h
    cases h
  · intro head tail hhead htail
    exact List.forall_mem_cons.mpr ⟨hhead, htail⟩
  · intro name value hvalue
    exact hvalue

mutual

def tokens : Tree → List Token
  | .null => [.null]
  | .bool value => [.bool value]
  | .number value => [.number value]
  | .text content => [.text content]
  | .array [] => [.arrayStart, .arrayEnd]
  | .array (item :: items) => .arrayStart :: (tokens item ++ itemTokens items)
  | .object [] => [.objectStart, .objectEnd]
  | .object ((name, value) :: members) =>
      .objectStart :: .text name :: .colon :: (tokens value ++ memberTokens members)

/-- The tokens of the items after the first, and of the end of the array. -/
def itemTokens : List Tree → List Token
  | [] => [.arrayEnd]
  | item :: items => .comma :: (tokens item ++ itemTokens items)

/-- The tokens of the members after the first, and of the end of the object. -/
def memberTokens : List (Content × Tree) → List Token
  | [] => [.objectEnd]
  | (name, value) :: members =>
      .comma :: .text name :: .colon :: (tokens value ++ memberTokens members)

end

theorem exists_tokens_eq_cons (t : Tree) :
    ∃ first rest, t.tokens = first :: rest ∧ first ≠ .arrayEnd := by
  cases t with
  | null | bool | number | text => exact ⟨_, _, rfl, by simp⟩
  | array items => cases items <;> exact ⟨_, _, rfl, by simp⟩
  | object members => cases members <;> exact ⟨_, _, rfl, by simp⟩

end Tree

namespace Reader

/-- The tokens of a tree deliver it, where a value is expected. -/
def Delivers (t : Tree) : Prop :=
  ∀ stack, t.tokens.foldlM step ⟨.value, stack⟩ = deliver t stack

theorem foldlM_firstItem {t : Tree} (h : Delivers t) (stack : List Open) :
    t.tokens.foldlM step ⟨.firstItem, stack⟩ = deliver t stack := by
  obtain ⟨first, rest, htokens, hfirst⟩ := Tree.exists_tokens_eq_cons t
  have hstep : step ⟨.firstItem, stack⟩ first = step ⟨.value, stack⟩ first := by
    cases first <;> first | rfl | exact absurd rfl hfirst
  rw [← h stack, htokens, List.foldlM_cons, List.foldlM_cons, hstep]

theorem foldlM_itemTokens {items : List Tree} (h : ∀ item ∈ items, Delivers item)
    (reversed : List Tree) (stack : List Open) :
    (Tree.itemTokens items).foldlM step ⟨.separator, .array reversed :: stack⟩ =
      deliver (.array (reversed.reverse ++ items)) stack := by
  induction items generalizing reversed with
  | nil =>
      rw [Tree.itemTokens, List.foldlM_cons, List.append_nil]
      exact Option.bind_fun_some _
  | cons item items ih =>
      obtain ⟨hitem, hitems⟩ := List.forall_mem_cons.mp h
      have hcomma : step ⟨.separator, .array reversed :: stack⟩ .comma =
          some ⟨.value, .array reversed :: stack⟩ := rfl
      have hdeliver : deliver item (.array reversed :: stack) =
          some ⟨.separator, .array (item :: reversed) :: stack⟩ := rfl
      rw [Tree.itemTokens, foldlM_cons_of_eq_some hcomma,
        foldlM_append_of_eq_some ((hitem _).trans hdeliver), ih hitems, List.reverse_cons,
        List.append_assoc, List.singleton_append]

theorem foldlM_member {value : Tree} (h : Delivers value) (name : Content) {expected : Expected}
    (hexpected : expected = .firstName ∨ expected = .name) (reversed : List (Content × Tree))
    (stack : List Open) :
    (.text name :: .colon :: value.tokens).foldlM step ⟨expected, .object reversed :: stack⟩ =
      some ⟨.separator, .object ((name, value) :: reversed) :: stack⟩ := by
  have hname : step ⟨expected, .object reversed :: stack⟩ (.text name) =
      some ⟨.colon, .member reversed name :: stack⟩ := by
    rcases hexpected with rfl | rfl <;> rfl
  have hcolon : step ⟨.colon, .member reversed name :: stack⟩ .colon =
      some ⟨.value, .member reversed name :: stack⟩ := rfl
  rw [foldlM_cons_of_eq_some hname, foldlM_cons_of_eq_some hcolon, h]
  rfl

theorem foldlM_memberTokens {members : List (Content × Tree)}
    (h : ∀ member ∈ members, Delivers member.2) (reversed : List (Content × Tree))
    (stack : List Open) :
    (Tree.memberTokens members).foldlM step ⟨.separator, .object reversed :: stack⟩ =
      deliver (.object (reversed.reverse ++ members)) stack := by
  induction members generalizing reversed with
  | nil =>
      rw [Tree.memberTokens, List.foldlM_cons, List.append_nil]
      exact Option.bind_fun_some _
  | cons member members ih =>
      obtain ⟨name, value⟩ := member
      obtain ⟨hvalue, hmembers⟩ := List.forall_mem_cons.mp h
      have hcomma : step ⟨.separator, .object reversed :: stack⟩ .comma =
          some ⟨.name, .object reversed :: stack⟩ := rfl
      have hsplit : Token.text name :: .colon :: (value.tokens ++ Tree.memberTokens members) =
          (.text name :: .colon :: value.tokens) ++ Tree.memberTokens members := rfl
      rw [Tree.memberTokens, foldlM_cons_of_eq_some hcomma, hsplit,
        foldlM_append_of_eq_some (foldlM_member hvalue name (.inr rfl) _ _), ih hmembers,
        List.reverse_cons, List.append_assoc, List.singleton_append]

theorem delivers (t : Tree) : Delivers t := by
  induction t using Tree.induction with
  | null | bool | number | text =>
      intro stack
      exact Option.bind_fun_some _
  | array items ih =>
      intro stack
      cases items with
      | nil => exact Option.bind_fun_some _
      | cons item items =>
          obtain ⟨hitem, hitems⟩ := List.forall_mem_cons.mp ih
          have hstart :
              step ⟨.value, stack⟩ .arrayStart = some ⟨.firstItem, .array [] :: stack⟩ :=
            rfl
          have hdeliver : deliver item (.array [] :: stack) =
              some ⟨.separator, .array [item] :: stack⟩ := rfl
          rw [Tree.tokens, foldlM_cons_of_eq_some hstart,
            foldlM_append_of_eq_some ((foldlM_firstItem hitem _).trans hdeliver),
            foldlM_itemTokens hitems]
          rfl
  | object members ih =>
      intro stack
      cases members with
      | nil => exact Option.bind_fun_some _
      | cons member members =>
          obtain ⟨name, value⟩ := member
          obtain ⟨hvalue, hmembers⟩ := List.forall_mem_cons.mp ih
          have hstart : step ⟨.value, stack⟩ .objectStart =
              some ⟨.firstName, .object [] :: stack⟩ := rfl
          have hsplit : Token.text name :: .colon :: (value.tokens ++ Tree.memberTokens members) =
              (.text name :: .colon :: value.tokens) ++ Tree.memberTokens members := rfl
          rw [Tree.tokens, foldlM_cons_of_eq_some hstart, hsplit,
            foldlM_append_of_eq_some (foldlM_member hvalue name (.inl rfl) _ _),
            foldlM_memberTokens hmembers]
          rfl

end Reader

theorem Tree.ofTokens?_tokens (t : Tree) : ofTokens? t.tokens = some t := by
  rw [ofTokens?, Reader.start, Reader.delivers t]
  rfl

end Honeypot.Json
