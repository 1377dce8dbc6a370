import Honeypot.Text.Case
import Mathlib.Data.List.Infix
import Mathlib.Data.List.TakeWhile

/-!
The lower-case form of a part of a text.

All characters are lower-cased one by one, but a capital sigma takes its final form where it ends
a word. So a part of a text has the form that it has alone exactly if each of its capital sigmas
ends a word in both places or in neither. Some parts tell this of their sigmas whatever is around
them.
-/

namespace Honeypot

/-- The first character that is not passed over in the search for a neighbouring letter. -/
def nearest? (text : List Char) : Option Char :=
  text.find? fun c => !caseIgnorableRanges.contains c

/-- Holds where a capital sigma takes its final form, between two parts of a text. -/
def endsWord (before after : List Char) : Bool := meetsCased before.reverse && !meetsCased after

/-- Each capital sigma of a part of a text ends a word there if it does so in the part alone, and
otherwise it does not. -/
def KeepsSigmas (before part after : List Char) : Prop :=
  ∀ left right, part = left ++ 'Σ' :: right →
    endsWord (before ++ left) (right ++ after) = endsWord left right

/-- A part of a text tells of each of its capital sigmas whether it ends a word. What is nearest
to it on one side shows that it does not, or there is something near to it on both sides. -/
def SettlesSigmas (part : List Char) : Prop :=
  ∀ left right, part = left ++ 'Σ' :: right →
    (∃ c, nearest? left.reverse = some c ∧ casedRanges.contains c = false) ∨
      (∃ c, nearest? right = some c ∧ casedRanges.contains c = true) ∨
      nearest? left.reverse ≠ none ∧ nearest? right ≠ none

variable {before before' part after after' : List Char} {c : Char}

theorem meetsCased_eq (text : List Char) :
    meetsCased text = (nearest? text).any casedRanges.contains := by
  rw [nearest?, List.find?_not_eq_head?_dropWhile, meetsCased]
  cases text.dropWhile caseIgnorableRanges.contains with
  | nil => rfl
  | cons c => rw [List.head?_cons, Option.any_some]

theorem nearest?_append (text text' : List Char) :
    nearest? (text ++ text') = (nearest? text).or (nearest? text') := List.find?_append

def lowerAt (before : List Char) (c : Char) (after : List Char) : List Char :=
  if c.toNat == 0x3A3 then
    if endsWord before after then ['ς'] else ['σ']
  else if c.toNat == 0x130 then ['i', '\u0307']
  else [lowerChar c]

def lowerWithin (before : List Char) : List Char → List Char → List Char
  | [], _ => []
  | c :: rest, after =>
      lowerAt before c (rest ++ after) ++ lowerWithin (before ++ [c]) rest after

theorem lowerAfter_reverse (before text : List Char) :
    lowerAfter before.reverse text = lowerWithin before text [] := by
  induction text generalizing before with
  | nil => rfl
  | cons c rest ih =>
      rw [lowerWithin, ← ih, List.reverse_append, List.append_nil]
      rfl

theorem toList_lowercase (text : String) :
    (lowercase text).toList = lowerWithin [] text.toList [] := by
  rw [lowercase, String.toList_ofList, ← lowerAfter_reverse]
  rfl

theorem lowerWithin_append (before part rest after : List Char) :
    lowerWithin before (part ++ rest) after =
      lowerWithin before part (rest ++ after) ++ lowerWithin (before ++ part) rest after := by
  induction part generalizing before with
  | nil => simp [lowerWithin]
  | cons c part ih => simp [lowerWithin, ih]

theorem lowerAt_of_ne (h : c ≠ 'Σ') (before after : List Char) :
    lowerAt before c after = lowerAt [] c [] := by
  have hcode : c.toNat ≠ 0x3A3 := fun hcode => h (Char.toNat_inj.mp hcode)
  simp [lowerAt, hcode]

theorem lowerAt_sigma (before after : List Char) :
    lowerAt before 'Σ' after = if endsWord before after then ['ς'] else ['σ'] := rfl

theorem lowerAt_map_beq (before before' : List Char) (c : Char) (after after' : List Char) :
    (lowerAt before c after).map (· == 'a') = (lowerAt before' c after').map (· == 'a') := by
  by_cases h : c = 'Σ'
  · rw [h, lowerAt_sigma, lowerAt_sigma]
    split <;> split <;> rfl
  · rw [lowerAt_of_ne h, lowerAt_of_ne h before']

theorem length_lowerAt (before before' : List Char) (c : Char) (after after' : List Char) :
    (lowerAt before c after).length = (lowerAt before' c after').length := by
  simpa using congrArg List.length (lowerAt_map_beq before before' c after after')

theorem lowerAt_eq_iff : lowerAt before c after = lowerAt before' c after' ↔
    (c = 'Σ' → endsWord before after = endsWord before' after') := by
  by_cases h : c = 'Σ'
  · rw [h, lowerAt_sigma, lowerAt_sigma]
    cases endsWord before after <;> cases endsWord before' after' <;> simp
  · simp [lowerAt_of_ne h before, lowerAt_of_ne h before', h]

theorem forall_split_cons_iff {d : Char} {rest : List Char} {p : List Char → List Char → Prop} :
    (∀ left right, c :: rest = left ++ d :: right → p left right) ↔
      (c = d → p [] rest) ∧ ∀ left right, rest = left ++ d :: right → p (c :: left) right := by
  constructor
  · intro h
    refine ⟨?_, ?_⟩
    · rintro rfl
      exact h [] rest rfl
    · rintro left right rfl
      exact h (c :: left) right rfl
  · rintro ⟨hfirst, hlater⟩ left right hsplit
    cases left with
    | nil =>
        obtain ⟨rfl, rfl⟩ := List.cons.inj hsplit
        exact hfirst rfl
    | cons _ left =>
        obtain ⟨rfl, rfl⟩ := List.cons.inj hsplit
        exact hlater left right rfl

/-- A part of a text has the same lower-case form in two places exactly if each of its capital
sigmas ends a word in both or in neither. -/
theorem lowerWithin_eq_iff :
    lowerWithin before part after = lowerWithin before' part after' ↔
      ∀ left right, part = left ++ 'Σ' :: right →
        endsWord (before ++ left) (right ++ after) =
          endsWord (before' ++ left) (right ++ after') := by
  induction part generalizing before before' with
  | nil => simp [lowerWithin]
  | cons c rest ih =>
      have hlength := length_lowerAt before before' c (rest ++ after) (rest ++ after')
      have happend :
          lowerWithin before (c :: rest) after = lowerWithin before' (c :: rest) after' ↔
          lowerAt before c (rest ++ after) = lowerAt before' c (rest ++ after') ∧
            lowerWithin (before ++ [c]) rest after = lowerWithin (before' ++ [c]) rest after' :=
        ⟨fun h => List.append_inj h hlength, fun ⟨hfirst, hrest⟩ => congrArg₂ _ hfirst hrest⟩
      rw [happend, lowerAt_eq_iff, ih, forall_split_cons_iff]
      simp

theorem lowerWithin_eq_alone_iff :
    lowerWithin before part after = lowerWithin [] part [] ↔ KeepsSigmas before part after := by
  rw [lowerWithin_eq_iff, KeepsSigmas]
  simp

/-- Where the sigmas of a fragment keep their forms, it is found in the lower-case form of a
name. -/
theorem KeepsSigmas.isInfix_lowercase {name fragment : String}
    (h : KeepsSigmas before fragment.toList after)
    (hname : name.toList = before ++ fragment.toList ++ after) :
    (lowercase fragment).toList <:+: (lowercase name).toList := by
  rw [toList_lowercase, toList_lowercase, hname, lowerWithin_append, lowerWithin_append,
    List.nil_append, List.append_nil, lowerWithin_eq_alone_iff.mpr h]
  exact List.infix_append _ _ _

theorem endsWord_append : endsWord (before ++ before') (after ++ after') =
    (((nearest? before'.reverse).or (nearest? before.reverse)).any casedRanges.contains &&
      !((nearest? after).or (nearest? after')).any casedRanges.contains) := by
  rw [endsWord, meetsCased_eq, meetsCased_eq, List.reverse_append, nearest?_append,
    nearest?_append]

theorem SettlesSigmas.keepsSigmas (h : SettlesSigmas part) (before after : List Char) :
    KeepsSigmas before part after := by
  intro left right hpart
  rw [endsWord_append, endsWord, meetsCased_eq, meetsCased_eq]
  rcases h left right hpart with ⟨c, hc, hcased⟩ | ⟨c, hc, hcased⟩ | ⟨hleft, hright⟩
  · simp only [hc, Option.some_or, Option.any_some, hcased, Bool.false_and]
  · simp only [hc, Option.some_or, Option.any_some, hcased, Bool.not_true, Bool.and_false]
  · obtain ⟨c, hc⟩ := Option.ne_none_iff_exists'.mp hleft
    obtain ⟨d, hd⟩ := Option.ne_none_iff_exists'.mp hright
    rw [hc, hd, Option.some_or, Option.some_or]

/-- A letter before a part and a letter after it are enough to tell whether the part settles all
of its sigmas. -/
theorem settlesSigmas_of_keepsSigmas (hbefore : KeepsSigmas ['a'] part [])
    (hafter : KeepsSigmas [] part ['a']) : SettlesSigmas part := by
  intro left right hpart
  have hnone : nearest? [] = none := rfl
  have hletter : nearest? ['a'] = some 'a' := by decide +kernel
  have hcased : casedRanges.contains 'a' = true := by decide +kernel
  have hleft := hbefore left right hpart
  have hright := hafter left right hpart
  rw [endsWord_append, endsWord, meetsCased_eq, meetsCased_eq] at hleft hright
  simp only [List.reverse_singleton, List.reverse_nil, hletter, hnone,
    Option.or_none] at hleft hright
  cases hl : nearest? left.reverse with
  | none =>
      -- A letter before the part makes the sigma end a word, unless a letter follows it.
      simp only [hl, Option.none_or, Option.any_some, hcased, Option.any_none, Bool.true_and,
        Bool.false_and, Bool.not_eq_false'] at hleft
      exact .inr (.inl (by simpa [Option.any_eq_true] using hleft))
  | some c =>
      by_cases hc : casedRanges.contains c = true
      · cases hr : nearest? right with
        | none =>
            -- A letter after the part makes the sigma end no word.
            simp [hl, hr, hc, hcased] at hright
        | some d => exact .inr (.inr ⟨Option.some_ne_none c, Option.some_ne_none d⟩)
      · exact .inl ⟨c, rfl, eq_false_of_ne_true hc⟩

theorem eq_replicate_of_cons_eq_concat {α : Type} {a b : α} {l : List α} (h : a :: l = l ++ [b]) :
    l = List.replicate l.length a := by
  induction l with
  | nil => rfl
  | cons c l ih =>
      obtain ⟨rfl, hrest⟩ := List.cons.inj h
      exact congrArg (List.cons a) (ih hrest)

/-- A text with one more character at its start has no other text of its length within it, if the
two have this character at the same places. -/
theorem eq_of_infix_cons {x y : List Char} {d : Char} (hplaces : x.map (· == d) = y.map (· == d))
    (h : x <:+: d :: y) : x = y := by
  have hlength : x.length = y.length := by simpa using congrArg List.length hplaces
  obtain ⟨front, back, h⟩ := h
  have hone : front.length + back.length = 1 := by
    have := congrArg List.length h
    simp only [List.length_append, List.length_cons] at this
    omega
  -- Either one text is the other one shifted by this character, and both repeat it, or they are
  -- equal.
  cases front with
  | nil =>
      obtain ⟨e, rfl⟩ := List.length_eq_one_iff.mp (by simpa using hone)
      have hshift : true :: y.map (· == d) = y.map (· == d) ++ [e == d] := by
        have := congrArg (List.map (· == d)) h
        simpa [hplaces] using this.symm
      have hall : ∀ b ∈ y.map (· == d), b = true :=
        (List.eq_replicate_iff.mp (eq_replicate_of_cons_eq_concat hshift)).2
      have hy : ∀ c ∈ y, c = d := fun c hc => eq_of_beq (hall _ (List.mem_map_of_mem hc))
      have hx : ∀ c ∈ x, c = d := fun c hc =>
        eq_of_beq (hall _ (hplaces ▸ List.mem_map_of_mem hc))
      rw [List.eq_replicate_of_mem hx, List.eq_replicate_of_mem hy, hlength]
  | cons _ front =>
      simp only [List.length_cons] at hone
      obtain rfl := List.length_eq_zero_iff.mp (show front.length = 0 by omega)
      obtain rfl := List.length_eq_zero_iff.mp (show back.length = 0 by omega)
      simpa using (List.cons.inj h).2

theorem lowerWithin_map_beq (before before' part after after' : List Char) :
    (lowerWithin before part after).map (· == 'a') =
      (lowerWithin before' part after').map (· == 'a') := by
  induction part generalizing before before' with
  | nil => rfl
  | cons c rest ih =>
      rw [lowerWithin, lowerWithin, List.map_append, List.map_append, lowerAt_map_beq, ih]

/-- With a letter before it, a fragment is found in lower case only if its sigmas keep their
forms. -/
theorem keepsSigmas_of_infix_cons
    (h : lowerWithin [] part [] <:+: lowerWithin [] ('a' :: part) []) :
    KeepsSigmas ['a'] part [] := by
  have hlower : lowerWithin [] ('a' :: part) [] = 'a' :: lowerWithin ['a'] part [] := rfl
  rw [hlower] at h
  exact lowerWithin_eq_alone_iff.mp (eq_of_infix_cons (lowerWithin_map_beq _ _ _ _ _) h).symm

theorem keepsSigmas_of_infix_concat
    (h : lowerWithin [] part [] <:+: lowerWithin [] (part ++ ['a']) []) :
    KeepsSigmas [] part ['a'] := by
  have hlower : lowerWithin [] (part ++ ['a']) [] = lowerWithin [] part ['a'] ++ ['a'] := by
    rw [lowerWithin_append]
    rfl
  rw [hlower, ← List.reverse_infix, List.reverse_append] at h
  have hplaces : (lowerWithin [] part []).reverse.map (· == 'a') =
      (lowerWithin [] part ['a']).reverse.map (· == 'a') := by
    rw [List.map_reverse, List.map_reverse, lowerWithin_map_beq]
  exact lowerWithin_eq_alone_iff.mp (List.reverse_injective (eq_of_infix_cons hplaces h)).symm

/-- A fragment is found in lower case in every name that contains it, exactly if it settles all of
its sigmas. -/
theorem settlesSigmas_iff {fragment : String} : SettlesSigmas fragment.toList ↔
    ∀ name : String, fragment.toList <:+: name.toList →
      (lowercase fragment).toList <:+: (lowercase name).toList := by
  constructor
  · rintro h name ⟨before, after, hname⟩
    exact (h.keepsSigmas before after).isInfix_lowercase hname.symm
  · intro h
    have hbefore := h (String.ofList ('a' :: fragment.toList)) (by simp [List.infix_cons])
    have hafter := h (String.ofList (fragment.toList ++ ['a']))
      (by simpa using List.infix_append' [] fragment.toList ['a'])
    rw [toList_lowercase, toList_lowercase, String.toList_ofList] at hbefore hafter
    exact settlesSigmas_of_keepsSigmas (keepsSigmas_of_infix_cons hbefore)
      (keepsSigmas_of_infix_concat hafter)

end Honeypot
