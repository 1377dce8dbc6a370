import Honeypot.Proofs.Json.Tree

namespace Honeypot.Json

namespace Tree

def partTokens (member : Content × Tree) : List Token :=
  .text member.1 :: .colon :: member.2.tokens

theorem tokens_array (items : List Tree) : tokens (.array items) =
    .arrayStart :: ([.comma].intercalate (items.map tokens) ++ [.arrayEnd]) := by
  have hitems (item : Tree) (items : List Tree) : item.tokens ++ itemTokens items =
      [.comma].intercalate ((item :: items).map tokens) ++ [.arrayEnd] := by
    induction items generalizing item with
    | nil => rw [itemTokens, List.map_singleton, List.intercalate_singleton]
    | cons next items ih =>
        rw [itemTokens, ih]
        simp only [List.map_cons, List.intercalate_cons_cons, List.append_assoc, List.cons_append,
          List.nil_append]
  cases items with
  | nil => rfl
  | cons item items => rw [tokens, hitems]

theorem tokens_object (members : List (Content × Tree)) : tokens (.object members) =
    .objectStart :: ([.comma].intercalate (members.map partTokens) ++ [.objectEnd]) := by
  have hmembers (member : Content × Tree) (members : List (Content × Tree)) :
      partTokens member ++ memberTokens members =
        [.comma].intercalate ((member :: members).map partTokens) ++ [.objectEnd] := by
    induction members generalizing member with
    | nil => rw [memberTokens, List.map_singleton, List.intercalate_singleton]
    | cons next members ih =>
        have hnext : memberTokens (next :: members) =
            .comma :: (partTokens next ++ memberTokens members) := rfl
        rw [hnext, ih]
        simp only [List.map_cons, List.intercalate_cons_cons, List.append_assoc, List.cons_append,
          List.nil_append]
  cases members with
  | nil => rfl
  | cons member members =>
      rw [← hmembers]
      rfl

end Tree

/-- Some parts, each with a comma behind it. -/
def listed (parts : List (List Token)) : List Token := parts.flatMap (· ++ [.comma])

theorem listed_concat (parts : List (List Token)) (last : List Token) :
    listed (parts ++ [last]) = listed parts ++ (last ++ [.comma]) := by
  rw [listed, List.flatMap_append, List.flatMap_singleton]
  rfl

theorem intercalate_concat (parts : List (List Token)) (last : List Token) :
    [.comma].intercalate (parts ++ [last]) = listed parts ++ last := by
  induction parts with
  | nil => exact List.intercalate_singleton
  | cons part parts ih =>
      rw [List.cons_append, List.intercalate_cons_of_ne_nil (by simp), ih, listed, listed,
        List.flatMap_cons]
      simp only [List.append_assoc]

/-- What has been read of an array or object before its next value. -/
def Open.entered : Open → List Token
  | .array reversed => .arrayStart :: listed (reversed.reverse.map Tree.tokens)
  | .object reversed => .objectStart :: listed (reversed.reverse.map Tree.partTokens)
  | .member reversed name =>
      .objectStart :: (listed (reversed.reverse.map Tree.partTokens) ++ [.text name, .colon])

namespace Open

theorem entered_item (item : Tree) (reversed : List Tree) :
    (array (item :: reversed)).entered =
      (array reversed).entered ++ (item.tokens ++ [.comma]) := by
  rw [entered, List.reverse_cons, List.map_append, List.map_singleton, listed_concat]
  rfl

theorem entered_member (member : Content × Tree) (reversed : List (Content × Tree)) :
    (object (member :: reversed)).entered =
      (object reversed).entered ++ (Tree.partTokens member ++ [.comma]) := by
  rw [entered, List.reverse_cons, List.map_append, List.map_singleton, listed_concat]
  rfl

theorem entered_name (reversed : List (Content × Tree)) (name : Content) :
    (Open.member reversed name).entered = (object reversed).entered ++ [.text name, .colon] := rfl

theorem tokens_array_entered (item : Tree) (reversed : List Tree) :
    (Tree.array (item :: reversed).reverse).tokens =
      (array reversed).entered ++ (item.tokens ++ [.arrayEnd]) := by
  rw [Tree.tokens_array, List.reverse_cons, List.map_append, List.map_singleton,
    intercalate_concat, List.append_assoc]
  rfl

theorem tokens_object_entered (member : Content × Tree) (reversed : List (Content × Tree)) :
    (Tree.object (member :: reversed).reverse).tokens =
      (object reversed).entered ++ (Tree.partTokens member ++ [.objectEnd]) := by
  rw [Tree.tokens_object, List.reverse_cons, List.map_append, List.map_singleton,
    intercalate_concat, List.append_assoc]
  rfl

end Open

namespace Reader

/-- What has been read when a value is expected, by all that is open. -/
def before (stack : List Open) : List Token := stack.reverse.flatMap Open.entered

theorem before_cons (o : Open) (stack : List Open) :
    before (o :: stack) = before stack ++ o.entered := by
  rw [before, List.reverse_cons, List.flatMap_append, List.flatMap_singleton]
  rfl

theorem before_of_entered {o o' : Open} {part : List Token} (h : o'.entered = o.entered ++ part)
    (stack : List Open) : before (o' :: stack) = before (o :: stack) ++ part := by
  rw [before_cons, before_cons, h, List.append_assoc]

inductive Read : Reader → List Token → Prop
  | value (stack : List Open) : Read ⟨.value, stack⟩ (before stack)
  | firstItem (stack : List Open) :
      Read ⟨.firstItem, .array [] :: stack⟩ (before (.array [] :: stack))
  | firstName (stack : List Open) :
      Read ⟨.firstName, .object [] :: stack⟩ (before (.object [] :: stack))
  | name (reversed : List (Content × Tree)) (stack : List Open) :
      Read ⟨.name, .object reversed :: stack⟩ (before (.object reversed :: stack))
  | colon (reversed : List (Content × Tree)) (name : Content) (stack : List Open) :
      Read ⟨.colon, .member reversed name :: stack⟩
        (before (.object reversed :: stack) ++ [.text name])
  | item (item : Tree) (reversed : List Tree) (stack : List Open) :
      Read ⟨.separator, .array (item :: reversed) :: stack⟩
        (before (.array reversed :: stack) ++ item.tokens)
  | member (member : Content × Tree) (reversed : List (Content × Tree)) (stack : List Open) :
      Read ⟨.separator, .object (member :: reversed) :: stack⟩
        (before (.object reversed :: stack) ++ Tree.partTokens member)
  | nothing (t : Tree) : Read ⟨.nothing t, []⟩ t.tokens

theorem read_of_deliver {t : Tree} {stack : List Open} {r : Reader}
    (h : deliver t stack = some r) :
    Read r (before stack ++ t.tokens) := by
  rcases stack with _ | ⟨_ | _ | ⟨reversed, name⟩, stack⟩
  · obtain rfl := Option.some.inj h
    exact .nothing t
  · obtain rfl := Option.some.inj h
    exact .item t _ stack
  · cases h
  · obtain rfl := Option.some.inj h
    rw [before_of_entered (Open.entered_name reversed name), List.append_assoc]
    exact .member (name, t) reversed stack

/-- Where a value is complete, its tokens are those of the open part and what closes it. -/
theorem read_of_close {t : Tree} {o : Open} {part : List Token} {stack : List Open} {r : Reader}
    (ht : t.tokens = o.entered ++ part) (h : deliver t stack = some r) :
    Read r (before (o :: stack) ++ part) := by
  rw [before_cons, List.append_assoc, ← ht]
  exact read_of_deliver h

theorem read_of_beginValue {token : Token} {stack : List Open} {r : Reader}
    (h : beginValue stack token = some r) : Read r (before stack ++ [token]) := by
  cases token with
  | null | bool | number | text => exact read_of_deliver h
  | arrayStart =>
      obtain rfl := Option.some.inj h
      have hfirst := Read.firstItem stack
      rwa [before_cons] at hfirst
  | objectStart =>
      obtain rfl := Option.some.inj h
      have hfirst := Read.firstName stack
      rwa [before_cons] at hfirst
  | _ => cases h

theorem read_of_beginMember {token : Token} {reversed : List (Content × Tree)} {stack : List Open}
    {r : Reader} (h : beginMember token (.object reversed :: stack) = some r) :
    Read r (before (.object reversed :: stack) ++ [token]) := by
  cases token with
  | text name =>
      obtain rfl := Option.some.inj h
      exact .colon reversed name stack
  | _ => cases h

/-- Each step reads its token and nothing else. -/
theorem Read.step {r r' : Reader} {read : List Token} (h : Read r read) {token : Token}
    (hstep : r.step token = some r') : Read r' (read ++ [token]) := by
  cases h with
  | value stack => exact read_of_beginValue hstep
  | firstItem stack =>
      cases token with
      | arrayEnd => exact read_of_close (o := .array []) rfl hstep
      | _ => exact read_of_beginValue hstep
  | firstName stack =>
      cases token with
      | objectEnd => exact read_of_close (o := .object []) rfl hstep
      | _ => exact read_of_beginMember hstep
  | name reversed stack => exact read_of_beginMember hstep
  | colon reversed name stack =>
      cases token with
      | colon =>
          obtain rfl := Option.some.inj hstep
          rw [List.append_assoc, List.singleton_append,
            ← before_of_entered (Open.entered_name reversed name)]
          exact .value _
      | _ => cases hstep
  | item item reversed stack =>
      rw [List.append_assoc]
      cases token with
      | comma =>
          obtain rfl := Option.some.inj hstep
          rw [← before_of_entered (Open.entered_item item reversed)]
          exact .value _
      | arrayEnd => exact read_of_close (Open.tokens_array_entered item reversed) hstep
      | _ => cases hstep
  | member member reversed stack =>
      rw [List.append_assoc]
      cases token with
      | comma =>
          obtain rfl := Option.some.inj hstep
          rw [← before_of_entered (Open.entered_member member reversed)]
          exact .name _ stack
      | objectEnd => exact read_of_close (Open.tokens_object_entered member reversed) hstep
      | _ => cases hstep
  | nothing t => cases hstep

theorem Read.run {r r' : Reader} {read tokens : List Token} (h : Read r read)
    (hrun : tokens.foldlM Reader.step r = some r') : Read r' (read ++ tokens) := by
  induction tokens generalizing r read with
  | nil =>
      obtain rfl := Option.some.inj hrun
      rwa [List.append_nil]
  | cons token tokens ih =>
      rw [List.foldlM_cons] at hrun
      obtain ⟨next, hstep, hrun⟩ := Option.bind_eq_some_iff.mp hrun
      have hread := ih (h.step hstep) hrun
      rwa [List.append_assoc, List.singleton_append] at hread

end Reader

/-- A tree is read from its own tokens and from no others. -/
theorem Tree.ofTokens?_eq_some_iff {tokens : List Token} {t : Tree} :
    ofTokens? tokens = some t ↔ tokens = t.tokens := by
  constructor
  · intro h
    obtain ⟨r, hrun, hfinish⟩ := Option.bind_eq_some_iff.mp h
    have hread := (Reader.Read.value []).run hrun
    cases hread with
    | nothing t' =>
        obtain rfl := Option.some.inj hfinish
        rfl
    | _ => cases hfinish
  · rintro rfl
    exact ofTokens?_tokens t

end Honeypot.Json
