import Honeypot.Pattern.Match
import Honeypot.Proofs.Pattern.Matching

namespace Honeypot

theorem getElem?_place (before after : List Char) :
    (before ++ after).toArray[before.length]? = after.head? := by
  rw [List.getElem?_toArray, List.getElem?_append_right (Nat.le_refl _), Nat.sub_self,
    List.head?_eq_getElem?]

theorem wordBefore_eq (before after : List Char) :
    wordBefore (before ++ after).toArray before.length = before.getLast?.any isWordChar := by
  rcases before.eq_nil_or_concat with rfl | ⟨front, c, rfl⟩
  · rfl
  · simp [wordBefore]

theorem wordAfter_eq (before after : List Char) :
    wordAfter (before ++ after).toArray before.length = after.head?.any isWordChar := by
  rw [wordAfter, getElem?_place]

theorem Look.holds_iff_fits (l : Look) (before after : List Char) :
    l.holds (before ++ after).toArray before.length = true ↔ l.Fits before after := by
  cases l with
  | textStart => simp [holds, Fits]
  | textEnd => simp [holds, Fits]
  | lineStart =>
      rcases before.eq_nil_or_concat with rfl | ⟨front, c, rfl⟩
      · simp [holds, Fits]
      · simp [holds, Fits]
  | lineEnd =>
      simp only [holds, Fits, getElem?_place]
      simp
  | boundary => simp only [holds, Fits, wordBefore_eq, wordAfter_eq, bne_iff_ne]
  | noBoundary => simp only [holds, Fits, wordBefore_eq, wordAfter_eq, beq_iff_eq]

namespace Pattern

def Steps (program : Array Instruction) (text : Array Char) (state next : State) : Prop :=
  ∃ instruction, program[state.instruction]? = some instruction ∧
    next ∈ instruction.onward text state.place

/-- A program leads from a state, in so many steps, to a match that ends at a place. -/
inductive LeadsIn (program : Array Instruction) (text : Array Char) : Nat → State → Nat → Prop
  | done {state} (h : program[state.instruction]? = none) :
      LeadsIn program text 0 state state.place
  | step {steps state next stop} (h : Steps program text state next)
      (hnext : LeadsIn program text steps next stop) :
      LeadsIn program text (steps + 1) state stop

def Leads (program : Array Instruction) (text : Array Char) (state : State) (stop : Nat) : Prop :=
  ∃ steps, LeadsIn program text steps state stop

/-- Instructions stand in a program from a number on. -/
def Laid (program : Array Instruction) : Nat → List Instruction → Prop
  | _, [] => True
  | base, instruction :: rest =>
      program[base]? = some instruction ∧ Laid program (base + 1) rest

variable {program : Array Instruction} {text : Array Char}

theorem Steps.leads {state next : State} {stop : Nat} (h : Steps program text state next)
    (hnext : Leads program text next stop) : Leads program text state stop := by
  obtain ⟨steps, hsteps⟩ := hnext
  exact ⟨steps + 1, .step h hsteps⟩

theorem laid_append_iff {base : Nat} {front back : List Instruction} :
    Laid program base (front ++ back) ↔
      Laid program base front ∧ Laid program (base + front.length) back := by
  induction front generalizing base with
  | nil => simp [Laid]
  | cons instruction front ih =>
      rw [List.cons_append, Laid, ih, Laid, and_assoc, List.length_cons, Nat.add_right_comm,
        Nat.add_assoc]

theorem laid_toArray (front instructions : List Instruction) :
    Laid (front ++ instructions).toArray front.length instructions := by
  induction instructions generalizing front with
  | nil => trivial
  | cons instruction rest ih =>
      refine ⟨by simp, ?_⟩
      simpa using ih (front ++ [instruction])

theorem laid_program (p : Pattern) : Laid p.program 0 (p.instructions 0 p.size) :=
  laid_toArray [] (p.instructions 0 p.size)

theorem LeadsIn.onward {steps : Nat} {state : State} {stop : Nat} {instruction : Instruction}
    (h : LeadsIn program text steps state stop)
    (hinstruction : program[state.instruction]? = some instruction) :
    ∃ rest next, steps = rest + 1 ∧ next ∈ instruction.onward text state.place ∧
      LeadsIn program text rest next stop := by
  cases h with
  | done hnone => rw [hnone] at hinstruction; cases hinstruction
  | step hstep hnext =>
      obtain ⟨other, hother, hmem⟩ := hstep
      obtain rfl := Option.some.inj (hother.symm.trans hinstruction)
      exact ⟨_, _, rfl, hmem, hnext⟩

theorem mem_onward_iterate_iff {greedy : Bool} {body exit place : Nat} {next : State} :
    next ∈ (iterate greedy body exit).onward text place ↔
      next = ⟨body, place⟩ ∨ next = ⟨exit, place⟩ := by
  cases greedy with
  | true => simp [iterate, Instruction.onward]
  | false => simp [iterate, Instruction.onward, or_comm]

/-- Where a pattern matches, its instructions lead from the front of the stretch to its end. -/
theorem Matches.leads {p : Pattern} {before taken after : List Char}
    (h : p.Matches before taken after) (htext : text = (before ++ taken ++ after).toArray)
    {base exit stop : Nat} (hlaid : Laid program base (p.instructions base exit))
    (hstop : Leads program text ⟨exit, (before ++ taken).length⟩ stop) :
    Leads program text ⟨base, before.length⟩ stop := by
  induction h generalizing base exit with
  | empty =>
      rw [List.append_nil] at hstop
      exact Steps.leads ⟨_, hlaid.1, List.mem_singleton_self _⟩ hstop
  | @set s c before after hc =>
      have hfound : text[before.length]? = some c := by
        rw [htext, List.append_assoc, getElem?_place]
        rfl
      refine Steps.leads ⟨_, hlaid.1, ?_⟩ hstop
      simp [Instruction.onward, hfound, hc]
  | @look l before after hl =>
      rw [List.append_nil] at htext hstop
      refine Steps.leads ⟨_, hlaid.1, ?_⟩ hstop
      have hholds : l.holds text before.length = true := htext ▸ (l.holds_iff_fits _ _).mpr hl
      simp [Instruction.onward, hholds]
  | seq _ _ ihp ihq =>
      obtain ⟨hp, hq⟩ := laid_append_iff.mp hlaid
      rw [length_instructions] at hq
      refine ihp (by simp [htext]) hp (ihq (by simp [htext]) hq ?_)
      rwa [List.append_assoc]
  | left _ ih =>
      obtain ⟨hfork, hlaid⟩ := hlaid
      have hp := (laid_append_iff.mp hlaid).1
      exact Steps.leads ⟨_, hfork, List.mem_cons_self⟩ (ih htext hp hstop)
  | right _ ih =>
      obtain ⟨hfork, hlaid⟩ := hlaid
      have hq := (laid_append_iff.mp hlaid).2
      rw [length_instructions] at hq
      exact Steps.leads ⟨_, hfork, List.mem_cons_of_mem _ List.mem_cons_self⟩ (ih htext hq hstop)
  | skip =>
      rw [List.append_nil] at hstop
      exact Steps.leads ⟨_, hlaid.1, mem_onward_iterate_iff.mpr (.inr rfl)⟩ hstop
  | once _ ih =>
      exact Steps.leads ⟨_, hlaid.1, mem_onward_iterate_iff.mpr (.inl rfl)⟩
        (ih htext hlaid.2 hstop)
  | stop =>
      rw [List.append_nil] at hstop
      exact Steps.leads ⟨_, hlaid.1, mem_onward_iterate_iff.mpr (.inr rfl)⟩ hstop
  | more _ _ ihp ih =>
      refine Steps.leads ⟨_, hlaid.1, mem_onward_iterate_iff.mpr (.inl rfl)⟩
        (ihp (by simp [htext]) hlaid.2 (ih (by simp [htext]) hlaid ?_))
      rwa [List.append_assoc]
  | last _ ih =>
      obtain ⟨hp, hiterate⟩ := laid_append_iff.mp hlaid
      rw [length_instructions] at hiterate
      exact ih htext hp
        (Steps.leads ⟨_, hiterate.1, mem_onward_iterate_iff.mpr (.inr rfl)⟩ hstop)
  | again _ _ ihp ih =>
      obtain ⟨hp, hiterate⟩ := laid_append_iff.mp hlaid
      rw [length_instructions] at hiterate
      refine ihp (by simp [htext]) hp
        (Steps.leads ⟨_, hiterate.1, mem_onward_iterate_iff.mpr (.inl rfl)⟩
          (ih (by simp [htext]) hlaid ?_))
      rwa [List.append_assoc]

/-- What leads from the first instruction of a pattern to a match takes a stretch that the pattern
matches, and goes on from the exit of the pattern in no more steps. -/
theorem LeadsIn.exists_matches (p : Pattern) {base exit : Nat}
    (hlaid : Laid program base (p.instructions base exit)) {steps stop : Nat}
    {before rest : List Char} (htext : text = (before ++ rest).toArray)
    (h : LeadsIn program text steps ⟨base, before.length⟩ stop) :
    ∃ taken after fewer, rest = taken ++ after ∧ p.Matches before taken after ∧ fewer ≤ steps ∧
      LeadsIn program text fewer ⟨exit, (before ++ taken).length⟩ stop := by
  induction p generalizing base exit steps before rest with
  | empty =>
      obtain ⟨fewer, next, rfl, hnext, h⟩ := h.onward hlaid.1
      obtain rfl := List.mem_singleton.mp hnext
      exact ⟨[], rest, fewer, rfl, .empty, Nat.le_succ _, by simpa using h⟩
  | set s =>
      obtain ⟨fewer, next, rfl, hnext, h⟩ := h.onward hlaid.1
      simp only [Instruction.onward, htext, getElem?_place] at hnext
      cases rest with
      | nil => simp at hnext
      | cons c after =>
          rw [List.head?_cons, Option.any_some, List.mem_ite_nil_right,
            List.mem_singleton] at hnext
          obtain ⟨hc, rfl⟩ := hnext
          exact ⟨[c], after, fewer, rfl, .set hc, Nat.le_succ _, by simpa using h⟩
  | look l =>
      obtain ⟨fewer, next, rfl, hnext, h⟩ := h.onward hlaid.1
      rw [Instruction.onward, List.mem_ite_nil_right, List.mem_singleton, htext,
        Look.holds_iff_fits] at hnext
      obtain ⟨hl, rfl⟩ := hnext
      exact ⟨[], rest, fewer, rfl, .look hl, Nat.le_succ _, by simpa using h⟩
  | seq p q ihp ihq =>
      obtain ⟨hp, hq⟩ := laid_append_iff.mp hlaid
      rw [length_instructions] at hq
      obtain ⟨first, middle, fewer, rfl, hfirst, hfewer, h⟩ := ihp hp htext h
      rw [← List.append_assoc] at htext
      obtain ⟨second, after, fewest, rfl, hsecond, hfewest, h⟩ := ihq hq htext h
      exact ⟨first ++ second, after, fewest, by simp, .seq hfirst hsecond, by omega,
        by rwa [← List.append_assoc]⟩
  | either p q ihp ihq =>
      obtain ⟨hfork, hlaid⟩ := hlaid
      obtain ⟨hp, hq⟩ := laid_append_iff.mp hlaid
      rw [length_instructions] at hq
      obtain ⟨fewer, next, rfl, hnext, h⟩ := h.onward hfork
      simp only [Instruction.onward, List.mem_cons, List.not_mem_nil, or_false] at hnext
      rcases hnext with rfl | rfl
      · obtain ⟨taken, after, fewest, hrest, hmatches, hfewest, h⟩ := ihp hp htext h
        exact ⟨taken, after, fewest, hrest, .left hmatches, by omega, h⟩
      · obtain ⟨taken, after, fewest, hrest, hmatches, hfewest, h⟩ := ihq hq htext h
        exact ⟨taken, after, fewest, hrest, .right hmatches, by omega, h⟩
  | optional p greedy ih =>
      obtain ⟨fewer, next, rfl, hnext, h⟩ := h.onward hlaid.1
      rcases mem_onward_iterate_iff.mp hnext with rfl | rfl
      · obtain ⟨taken, after, fewest, hrest, hmatches, hfewest, h⟩ := ih hlaid.2 htext h
        exact ⟨taken, after, fewest, hrest, .once hmatches, by omega, h⟩
      · exact ⟨[], rest, fewer, rfl, .skip, Nat.le_succ _, by simpa using h⟩
  | star p greedy ih =>
      -- Each iteration takes a step at least, which bounds their number.
      induction steps using Nat.strongRecOn generalizing before rest with
      | ind steps more =>
          obtain ⟨fewer, next, rfl, hnext, h⟩ := h.onward hlaid.1
          rcases mem_onward_iterate_iff.mp hnext with rfl | rfl
          · obtain ⟨first, middle, fewest, rfl, hfirst, hfewest, h⟩ := ih hlaid.2 htext h
            rw [← List.append_assoc] at htext
            obtain ⟨second, after, least, rfl, hsecond, hleast, h⟩ :=
              more fewest (by omega) htext h
            exact ⟨first ++ second, after, least, by simp, .more hfirst hsecond, by omega,
              by rwa [← List.append_assoc]⟩
          · exact ⟨[], rest, fewer, rfl, .stop, Nat.le_succ _, by simpa using h⟩
  | repeated p greedy ih =>
      obtain ⟨hp, hiterate⟩ := laid_append_iff.mp hlaid
      rw [length_instructions] at hiterate
      induction steps using Nat.strongRecOn generalizing before rest with
      | ind steps again =>
          obtain ⟨first, middle, fewer, rfl, hfirst, hfewer, h⟩ := ih hp htext h
          obtain ⟨fewest, next, rfl, hnext, h⟩ := h.onward hiterate.1
          rcases mem_onward_iterate_iff.mp hnext with rfl | rfl
          · rw [← List.append_assoc] at htext
            obtain ⟨second, after, least, rfl, hsecond, hleast, h⟩ :=
              again fewest (by omega) htext h
            exact ⟨first ++ second, after, least, by simp, .again hfirst hsecond, by omega,
              by rwa [← List.append_assoc]⟩
          · exact ⟨first, middle, fewest, rfl, .last hfirst, by omega, h⟩

theorem leads_program_iff {p : Pattern} {before rest : List Char} {stop : Nat} :
    Leads p.program (before ++ rest).toArray ⟨0, before.length⟩ stop ↔
      ∃ taken after, rest = taken ++ after ∧ p.Matches before taken after ∧
        stop = (before ++ taken).length := by
  have hend : p.program[p.size]? = none := by simp
  constructor
  · rintro ⟨steps, h⟩
    obtain ⟨taken, after, fewer, hrest, hmatches, -, h⟩ :=
      LeadsIn.exists_matches p p.laid_program rfl h
    refine ⟨taken, after, hrest, hmatches, ?_⟩
    cases h with
    | done => rfl
    | step hstep _ =>
        obtain ⟨_, hinstruction, -⟩ := hstep
        rw [hend] at hinstruction
        cases hinstruction
  · rintro ⟨taken, after, rfl, hmatches, rfl⟩
    exact hmatches.leads (by simp) p.laid_program ⟨0, .done hend⟩

end Pattern

end Honeypot
