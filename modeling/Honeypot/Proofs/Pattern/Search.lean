import Honeypot.Proofs.Pattern.Program
import Mathlib.Data.Finset.Card
import Mathlib.Data.Finset.Prod
import Mathlib.Data.Finset.Range

/-!
The search finds a match exactly where there is one.

A state that was tried in vain is never tried again. This loses no match, since whatever follows
such a state has been tried as well or is still waiting, and none of them is a match.
-/

namespace Honeypot.Pattern

namespace Trail

/-- No state that has been tried is a match, and what follows it has been tried or is waiting. -/
def Closed (program : Array Instruction) (text : Array Char) (trail : Trail)
    (waiting : List State) : Prop :=
  ∀ state : State, trail.contains state.instruction state.place = true →
    ∃ instruction, program[state.instruction]? = some instruction ∧
      ∀ next ∈ instruction.onward text state.place,
        trail.contains next.instruction next.place = true ∨ next ∈ waiting

def untried (program : Array Instruction) (text : Array Char) (trail : Trail) : ℕ :=
  ((Finset.range program.size ×ˢ Finset.range (text.size + 1)).filter fun state =>
    trail.contains state.1 state.2 = false).card

variable {program : Array Instruction} {text : Array Char} {trail : Trail}

theorem untried_le (program : Array Instruction) (text : Array Char) (trail : Trail) :
    untried program text trail ≤ program.size * (text.size + 1) := by
  refine (Finset.card_filter_le _ _).trans ?_
  rw [Finset.card_product, Finset.card_range, Finset.card_range]

theorem untried_insert_lt {instruction place : ℕ} (hinstruction : instruction < program.size)
    (hplace : place ≤ text.size) (h : trail.contains instruction place = false) :
    untried program text (trail.insert instruction place) < untried program text trail := by
  refine Finset.card_lt_card
    (Finset.ssubset_iff_of_subset ?_ |>.mpr ⟨(instruction, place), ?_, ?_⟩)
  · intro state hstate
    simp only [Finset.mem_filter, contains_insert, Bool.or_eq_false_iff] at hstate ⊢
    exact ⟨hstate.1, hstate.2.2⟩
  · simp only [Finset.mem_filter, Finset.mem_product, Finset.mem_range]
    exact ⟨⟨hinstruction, by omega⟩, h⟩
  · simp

theorem closed_empty : empty.Closed program text [] := by
  intro state h
  simp at h

theorem Closed.not_leads (h : trail.Closed program text []) {state : State}
    (hstate : trail.contains state.instruction state.place = true) (stop : ℕ) :
    ¬Leads program text state stop := by
  rintro ⟨steps, hleads⟩
  induction hleads with
  | done hnone =>
      obtain ⟨_, hinstruction, -⟩ := h _ hstate
      rw [hnone] at hinstruction
      cases hinstruction
  | step hstep _ ih =>
      obtain ⟨instruction, hinstruction, honward⟩ := h _ hstate
      obtain ⟨other, hother, hnext⟩ := hstep
      obtain rfl := Option.some.inj (hinstruction.symm.trans hother)
      exact ih ((honward _ hnext).resolve_right List.not_mem_nil)

theorem Closed.of_cons {state : State} {waiting : List State}
    (h : trail.Closed program text (state :: waiting))
    (hstate : trail.contains state.instruction state.place = true) :
    trail.Closed program text waiting := by
  intro tried htried
  obtain ⟨instruction, hinstruction, honward⟩ := h tried htried
  refine ⟨instruction, hinstruction, fun next hnext => ?_⟩
  rcases honward next hnext with hnext | hnext
  · exact .inl hnext
  · rcases List.mem_cons.mp hnext with rfl | hnext
    · exact .inl hstate
    · exact .inr hnext

theorem Closed.insert {state : State} {waiting : List State} {instruction : Instruction}
    (h : trail.Closed program text (state :: waiting))
    (hinstruction : program[state.instruction]? = some instruction) :
    (trail.insert state.instruction state.place).Closed program text
      (instruction.onward text state.place ++ waiting) := by
  intro tried htried
  simp only [contains_insert, Bool.or_eq_true, decide_eq_true_eq] at htried ⊢
  rcases htried with ⟨hsame, hplace⟩ | htried
  · refine ⟨instruction, hsame ▸ hinstruction, fun next hnext => .inr ?_⟩
    exact List.mem_append_left _ (hplace ▸ hnext)
  · obtain ⟨other, hother, honward⟩ := h tried htried
    refine ⟨other, hother, fun next hnext => ?_⟩
    rcases honward next hnext with hnext | hnext
    · exact .inl (.inr hnext)
    · rcases List.mem_cons.mp hnext with rfl | hnext
      · exact .inl (.inl ⟨rfl, rfl⟩)
      · exact .inr (List.mem_append_right _ hnext)

end Trail

section Explore

variable {program : Array Instruction} {text : Array Char} {trail : Trail} {waiting : List State}

theorem place_of_mem_onward {instruction : Instruction} {place : ℕ} {next : State}
    (h : next ∈ instruction.onward text place) (hplace : place ≤ text.size) :
    next.place ≤ text.size := by
  cases instruction with
  | take s after =>
      rw [Instruction.onward, List.mem_ite_nil_right, List.mem_singleton] at h
      obtain ⟨hc, rfl⟩ := h
      cases hfound : text[place]? with
      | none => simp [hfound] at hc
      | some c => exact (Array.getElem?_eq_some_iff.mp hfound).1
  | check l after =>
      rw [Instruction.onward, List.mem_ite_nil_right, List.mem_singleton] at h
      obtain ⟨-, rfl⟩ := h
      exact hplace
  | jump after =>
      obtain rfl := List.mem_singleton.mp h
      exact hplace
  | fork first second =>
      simp only [Instruction.onward, List.mem_cons, List.not_mem_nil, or_false] at h
      rcases h with rfl | rfl <;> exact hplace

theorem length_onward_le (instruction : Instruction) (text : Array Char) (place : ℕ) :
    (instruction.onward text place).length ≤ 2 := by
  cases instruction with
  | take => simp only [Instruction.onward]; split <;> simp
  | check => simp only [Instruction.onward]; split <;> simp
  | jump => simp [Instruction.onward]
  | fork => simp [Instruction.onward]

theorem bound_onward {state : State} {instruction : Instruction} {bound : ℕ}
    (hinstruction : program[state.instruction]? = some instruction)
    (hplace : state.place ≤ text.size)
    (hnew : ¬trail.contains state.instruction state.place = true)
    (hbound : waiting.length + 1 + 2 * trail.untried program text < bound + 1) :
    (instruction.onward text state.place ++ waiting).length +
      2 * (trail.insert state.instruction state.place).untried program text < bound := by
  have hless := Trail.untried_insert_lt (Array.getElem?_eq_some_iff.mp hinstruction).1 hplace
    (Bool.eq_false_iff.mpr hnew)
  have hlength := length_onward_le instruction text state.place
  rw [List.length_append]
  omega

theorem place_le_of_mem_append {instruction : Instruction} {place : ℕ}
    (hplace : place ≤ text.size)
    (hplaces : ∀ state ∈ waiting, state.place ≤ text.size) :
    ∀ next ∈ instruction.onward text place ++ waiting, next.place ≤ text.size := by
  intro next hnext
  rcases List.mem_append.mp hnext with hnext | hnext
  · exact place_of_mem_onward hnext hplace
  · exact hplaces next hnext

theorem leads_of_explore_eq_some {bound stop : ℕ}
    (h : (explore program text bound trail waiting).2 = some stop) :
    ∃ state ∈ waiting, Leads program text state stop := by
  induction bound generalizing trail waiting with
  | zero => cases h
  | succ bound ih =>
      cases waiting with
      | nil => cases h
      | cons state waiting =>
          rw [explore] at h
          split at h
          · obtain ⟨found, hfound, hleads⟩ := ih h
            exact ⟨found, List.mem_cons_of_mem _ hfound, hleads⟩
          · split at h
            · rename_i hnone
              obtain rfl := Option.some.inj h
              exact ⟨state, List.mem_cons_self, 0, .done hnone⟩
            · rename_i instruction hinstruction
              obtain ⟨found, hfound, hleads⟩ := ih h
              rcases List.mem_append.mp hfound with hfound | hfound
              · exact ⟨state, List.mem_cons_self, Steps.leads ⟨_, hinstruction, hfound⟩ hleads⟩
              · exact ⟨found, List.mem_cons_of_mem _ hfound, hleads⟩

/-- A search that finds nothing, within a bound that allows for it, leaves a trail in which all
that was waiting has been tried. -/
theorem closed_of_explore_eq_none {bound : ℕ} (hclosed : trail.Closed program text waiting)
    (hplaces : ∀ state ∈ waiting, state.place ≤ text.size)
    (hbound : waiting.length + 2 * trail.untried program text < bound)
    (h : (explore program text bound trail waiting).2 = none) :
    (explore program text bound trail waiting).1.Closed program text [] ∧
      ∀ state : State, trail.contains state.instruction state.place = true ∨ state ∈ waiting →
        (explore program text bound trail waiting).1.contains state.instruction state.place =
          true := by
  induction bound generalizing trail waiting with
  | zero => omega
  | succ bound ih =>
      cases waiting with
      | nil => exact ⟨hclosed, fun state hstate => hstate.resolve_right List.not_mem_nil⟩
      | cons state waiting =>
          obtain ⟨hplace, hplaces⟩ := List.forall_mem_cons.mp hplaces
          rw [List.length_cons] at hbound
          rw [explore] at h ⊢
          split at h
          · rename_i htried
            rw [if_pos htried]
            obtain ⟨hfinal, hkept⟩ := ih (hclosed.of_cons htried) hplaces (by omega) h
            refine ⟨hfinal, fun other hother => hkept other ?_⟩
            rcases hother with hother | hother
            · exact .inl hother
            · rcases List.mem_cons.mp hother with rfl | hother
              · exact .inl htried
              · exact .inr hother
          · rename_i huntried
            rw [if_neg huntried]
            split at h
            · cases h
            · rename_i instruction hinstruction
              obtain ⟨hfinal, hkept⟩ := ih (hclosed.insert hinstruction)
                (place_le_of_mem_append hplace hplaces)
                (bound_onward hinstruction hplace huntried hbound) h
              refine ⟨hfinal, fun other hother => hkept other ?_⟩
              rw [Trail.contains_insert, Bool.or_eq_true, decide_eq_true_eq]
              rcases hother with hother | hother
              · exact .inl (.inr hother)
              · rcases List.mem_cons.mp hother with rfl | hother
                · exact .inl (.inl ⟨rfl, rfl⟩)
                · exact .inr (List.mem_append_right _ hother)

end Explore

section First

variable {program : Array Instruction} {text : Array Char} {trail : Trail}

theorem bound_start (program : Array Instruction) (text : Array Char) (trail : Trail)
    (start : ℕ) :
    [(⟨0, start⟩ : State)].length + 2 * trail.untried program text <
      exploreBound program text := by
  have hle := Trail.untried_le program text trail
  rw [List.length_singleton, exploreBound]
  omega

theorem closed_of_explore_start {start : ℕ} (hclosed : trail.Closed program text [])
    (hstart : start ≤ text.size)
    (h : (explore program text (exploreBound program text) trail [⟨0, start⟩]).2 = none) :
    (explore program text (exploreBound program text) trail [⟨0, start⟩]).1.Closed
        program text [] ∧
      ∀ stop, ¬Leads program text ⟨0, start⟩ stop := by
  have hwaiting : trail.Closed program text [⟨0, start⟩] := by
    intro state hstate
    obtain ⟨instruction, hinstruction, honward⟩ := hclosed state hstate
    exact ⟨instruction, hinstruction,
      fun next hnext => .inl ((honward next hnext).resolve_right List.not_mem_nil)⟩
  obtain ⟨hfinal, htried⟩ := closed_of_explore_eq_none hwaiting (by simpa using hstart)
    (bound_start program text trail start) h
  exact ⟨hfinal, hfinal.not_leads (htried ⟨0, start⟩ (.inr List.mem_cons_self))⟩

theorem firstFrom_cases {starts i : ℕ} (hclosed : trail.Closed program text [])
    (hstarts : i + starts ≤ text.size + 1) :
    (firstFrom program text starts trail i = none ∧
      ∀ start, i ≤ start → start < i + starts → ∀ stop, ¬Leads program text ⟨0, start⟩ stop) ∨
    ∃ start stop, firstFrom program text starts trail i = some (start, stop) ∧
      i ≤ start ∧ start < i + starts ∧ Leads program text ⟨0, start⟩ stop ∧
      ∀ earlier, i ≤ earlier → earlier < start →
        ∀ stop, ¬Leads program text ⟨0, earlier⟩ stop := by
  induction starts generalizing trail i with
  | zero => exact .inl ⟨rfl, fun start hlow hhigh => by omega⟩
  | succ starts ih =>
      rw [firstFrom]
      cases hexplore : explore program text (exploreBound program text) trail [⟨0, i⟩] with
      | mk after found =>
          cases found with
          | some stop =>
              obtain ⟨state, hstate, hleads⟩ :=
                leads_of_explore_eq_some (congrArg Prod.snd hexplore)
              obtain rfl := List.mem_singleton.mp hstate
              exact .inr ⟨i, stop, rfl, le_rfl, by omega, hleads, fun _ hlow hhigh => by omega⟩
          | none =>
              have hi : i ≤ text.size := by omega
              obtain ⟨hafter, hnone⟩ :=
                closed_of_explore_start hclosed hi (congrArg Prod.snd hexplore)
              rw [hexplore] at hafter
              have hearlier {start : ℕ} (hlow : i ≤ start) (hlater : start < i + 1) (stop : ℕ) :
                  ¬Leads program text ⟨0, start⟩ stop := by
                obtain rfl : start = i := by omega
                exact hnone stop
              have hbound : i + 1 + starts ≤ text.size + 1 := by omega
              rcases ih hafter hbound with
                ⟨hfirst, hall⟩ | ⟨start, stop, hfirst, hlow, hhigh, hleads, hall⟩
              · refine .inl ⟨hfirst, fun start hlow hhigh => ?_⟩
                rcases Nat.lt_or_ge start (i + 1) with hlt | hge
                · exact hearlier hlow hlt
                · exact hall start hge (by omega)
              · refine .inr ⟨start, stop, hfirst, by omega, by omega, hleads, ?_⟩
                intro earlier hlow hlt
                rcases Nat.lt_or_ge earlier (i + 1) with hlt' | hge
                · exact hearlier hlow hlt'
                · exact hall earlier hge hlt

end First

variable (p : Pattern)

theorem spans_ne_nil_iff (text : Array Char) : p.spans text ≠ [] ↔
    ∃ start ≤ text.size, ∃ stop, Leads p.program text ⟨0, start⟩ stop := by
  rw [spans, spansFrom, first?, Nat.sub_zero]
  have hclosed : Trail.empty.Closed p.program text [] := Trail.closed_empty
  have hstarts : 0 + (text.size + 1) ≤ text.size + 1 := by omega
  rcases firstFrom_cases hclosed hstarts with
    ⟨hfirst, hall⟩ | ⟨start, stop, hfirst, -, hhigh, hleads, -⟩
  · rw [hfirst]
    refine iff_of_false (by simp) ?_
    rintro ⟨start, hstart, stop, hleads⟩
    exact hall start (Nat.zero_le _) (by omega) stop hleads
  · rw [hfirst]
    refine iff_of_true ?_ ⟨start, by omega, stop, hleads⟩
    dsimp only
    split <;> simp

/-- A pattern occurs in a text if and only if it matches somewhere in it. -/
theorem occurrences_ne_nil_iff (text : String) :
    p.occurrences text ≠ [] ↔ p.MatchesIn text.toList := by
  rw [occurrences, ne_eq, List.map_eq_nil_iff, ← ne_eq, spans_ne_nil_iff]
  constructor
  · rintro ⟨start, hstart, stop, hleads⟩
    obtain ⟨before, rest, htext, rfl⟩ : ∃ before rest, text.toList = before ++ rest ∧
        before.length = start :=
      ⟨_, _, (List.take_append_drop start _).symm, List.length_take_of_le (by simpa using hstart)⟩
    rw [htext, leads_program_iff] at hleads
    obtain ⟨taken, after, rfl, h, -⟩ := hleads
    exact ⟨before, taken, after, by rw [htext, List.append_assoc], h⟩
  · rintro ⟨before, taken, after, htext, h⟩
    refine ⟨before.length, ?_, (before ++ taken).length, ?_⟩
    · rw [htext, List.size_toArray, List.length_append, List.length_append]
      omega
    · rw [htext, List.append_assoc, leads_program_iff]
      exact ⟨taken, after, rfl, h, rfl⟩

end Honeypot.Pattern
