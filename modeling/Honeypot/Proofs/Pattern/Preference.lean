import Honeypot.Proofs.Pattern.Search
import Honeypot.Proofs.Pattern.Ways

/-!
A search finds the match that its pattern prefers.

A search without a trail tries the stretches that a pattern can take in their order. The trail
only spares states that such a search would leave again in vain, so both find the same end.
-/

namespace Honeypot.Pattern

/-- What a search without a trail yields from waiting states, in so many steps. -/
inductive YieldsIn (program : Array Instruction) (text : Array Char) :
    ℕ → List State → Option ℕ → Prop
  | nothing : YieldsIn program text 0 [] none
  | found {state waiting} (h : program[state.instruction]? = none) :
      YieldsIn program text 0 (state :: waiting) (some state.place)
  | onward {state waiting instruction steps result}
      (h : program[state.instruction]? = some instruction)
      (hnext : YieldsIn program text steps
        (instruction.onward text state.place ++ waiting) result) :
      YieldsIn program text (steps + 1) (state :: waiting) result

def Yields (program : Array Instruction) (text : Array Char) (waiting : List State)
    (result : Option ℕ) : Prop :=
  ∃ steps, YieldsIn program text steps waiting result

/-- Some states come to the same as others, whatever is waiting after them. -/
def Becomes (program : Array Instruction) (text : Array Char) (states states' : List State) :
    Prop :=
  ∀ waiting result, Yields program text (states' ++ waiting) result →
    Yields program text (states ++ waiting) result

section Becomes

variable {program : Array Instruction} {text : Array Char} {states states' states'' : List State}

theorem Becomes.refl (states : List State) : Becomes program text states states :=
  fun _ _ h => h

theorem Becomes.trans (h : Becomes program text states states')
    (h' : Becomes program text states' states'') : Becomes program text states states'' :=
  fun waiting result hyields => h waiting result (h' waiting result hyields)

theorem becomes_onward {state : State} {instruction : Instruction}
    (h : program[state.instruction]? = some instruction) :
    Becomes program text [state] (instruction.onward text state.place) := by
  rintro waiting result ⟨steps, hsteps⟩
  exact ⟨steps + 1, .onward h hsteps⟩

theorem YieldsIn.replace (h : Becomes program text states states') {steps : ℕ}
    {front waiting : List State} {result : Option ℕ}
    (hyields : YieldsIn program text steps (front ++ (states' ++ waiting)) result) :
    Yields program text (front ++ (states ++ waiting)) result := by
  induction steps generalizing front with
  | zero =>
      cases front with
      | nil => exact h waiting result ⟨0, hyields⟩
      | cons state front =>
          cases hyields with
          | found hnone => exact ⟨0, .found hnone⟩
  | succ steps ih =>
      cases front with
      | nil => exact h waiting result ⟨steps + 1, hyields⟩
      | cons state front =>
          cases hyields with
          | onward hinstruction hnext =>
              obtain ⟨more, hmore⟩ := ih ((List.append_assoc _ _ _).symm ▸ hnext)
              rw [List.append_assoc] at hmore
              exact ⟨more + 1, .onward hinstruction hmore⟩

theorem Becomes.append {later later' : List State} (h : Becomes program text states states')
    (hlater : Becomes program text later later') :
    Becomes program text (states ++ later) (states' ++ later') := by
  rintro waiting result ⟨steps, hsteps⟩
  rw [List.append_assoc] at hsteps ⊢
  exact h _ _ (hsteps.replace hlater)

theorem becomes_flatMap {α : Type} {list : List α} {state : α → State} {onto : α → List State}
    (h : ∀ a ∈ list, Becomes program text [state a] (onto a)) :
    Becomes program text (list.map state) (list.flatMap onto) := by
  induction list with
  | nil => exact .refl []
  | cons a list ih =>
      obtain ⟨ha, hlist⟩ := List.forall_mem_cons.mp h
      exact ha.append (ih hlist)

end Becomes

/-- From an instruction at a place, a search comes to another instruction in given ways. -/
def Goes (program : Array Instruction) (ways : Ways) (base exit : ℕ) (before after : List Char) :
    Prop :=
  Becomes program (before ++ after).toArray [⟨base, before.length⟩]
    ((ways before after).map fun taken => ⟨exit, (before ++ taken).length⟩)

section Goes

variable {program : Array Instruction} {ways first second : Ways} {greedy : Bool}
  {base body middle exit : ℕ} {before after : List Char}

theorem Goes.andThen (hwithin : first.Within) (h : Goes program first base middle before after)
    (hsecond : ∀ taken ∈ first before after,
      Goes program second middle exit (before ++ taken) (after.drop taken.length)) :
    Goes program (first.andThen second) base exit before after := by
  refine h.trans ?_
  have hways : (first.andThen second before after).map
        (fun taken => (⟨exit, (before ++ taken).length⟩ : State)) =
      (first before after).flatMap fun taken =>
        (second (before ++ taken) (after.drop taken.length)).map fun rest =>
          ⟨exit, (before ++ taken ++ rest).length⟩ := by
    simp only [Ways.andThen, List.map_flatMap, List.map_map, Function.comp_def, List.append_assoc]
  rw [hways]
  refine becomes_flatMap fun taken htaken => ?_
  obtain ⟨rest, rfl⟩ := hwithin before after taken htaken
  have hgoes := hsecond taken htaken
  rw [List.drop_left] at hgoes ⊢
  rw [← List.append_assoc]
  exact hgoes

theorem Goes.orNothing (hiterate : program[base]? = some (iterate greedy body exit))
    (h : Goes program ways body exit before after) :
    Goes program (ways.orNothing greedy) base exit before after := by
  refine (becomes_onward hiterate).trans ?_
  have hexit : Becomes program (before ++ after).toArray [⟨exit, before.length⟩]
      [⟨exit, (before ++ []).length⟩] := by
    rw [List.append_nil]
    exact .refl _
  cases greedy with
  | true =>
      rw [Ways.orNothing, if_pos rfl, List.map_append]
      exact Becomes.append h hexit
  | false => exact hexit.append h

theorem goes_upTo (hwithin : ways.Within) (htakes : ways.Takes)
    (hiterate : program[base]? = some (iterate greedy body exit))
    (h : ∀ before after, Goes program ways body base before after) {n : ℕ}
    (hn : after.length ≤ n) : Goes program (ways.upTo greedy n) base exit before after := by
  induction n generalizing before after with
  | zero =>
      obtain rfl := List.eq_nil_of_length_eq_zero (Nat.le_zero.mp hn)
      have hnone : ways before [] = [] := by
        refine List.eq_nil_iff_forall_not_mem.mpr fun taken htaken => ?_
        obtain rfl := List.prefix_nil.mp (hwithin before [] taken htaken)
        exact htakes before [] htaken
      have hbody : Goes program (fun _ _ => []) body exit before [] := by
        have hgoes := h before []
        rw [Goes, hnone] at hgoes
        exact hgoes
      have hgoes := Goes.orNothing hiterate hbody
      cases greedy with
      | true => exact hgoes
      | false => exact hgoes
  | succ n ih =>
      refine Goes.orNothing hiterate
        (Goes.andThen hwithin (h before after) fun taken htaken => ?_)
      have htaken' := List.length_pos_iff.mpr fun hnil => htakes before after (hnil ▸ htaken)
      exact ih (by rw [List.length_drop]; omega)

end Goes

theorem goes_of_onward {program : Array Instruction} {ways : Ways} {base exit : ℕ}
    {before after : List Char} {instruction : Instruction}
    (h : program[base]? = some instruction)
    (honward : instruction.onward (before ++ after).toArray before.length =
      (ways before after).map fun taken => ⟨exit, (before ++ taken).length⟩) :
    Goes program ways base exit before after := by
  rw [Goes, ← honward]
  exact becomes_onward h

/-- The instructions of a pattern lead to their exit in the ways of the pattern, in that order. -/
theorem goes_of_laid {program : Array Instruction} (p : Pattern) (hp : p.loopsTake = true)
    {base exit : ℕ} (hlaid : Laid program base (p.instructions base exit))
    (before after : List Char) : Goes program p.ways base exit before after := by
  induction p generalizing base exit before after with
  | empty => exact goes_of_onward hlaid.1 (by simp [Instruction.onward, ways])
  | set s =>
      refine goes_of_onward hlaid.1 ?_
      rw [Instruction.onward, getElem?_place, ways]
      cases after with
      | nil => simp
      | cons c after =>
          by_cases hc : s.contains c = true
          · simp [hc]
          · simp [hc]
  | look l =>
      refine goes_of_onward hlaid.1 ?_
      rw [Instruction.onward, ways]
      simp only [Look.holds_iff_fits]
      split <;> simp
  | seq p q ihp ihq =>
      obtain ⟨hp, hq⟩ := Bool.and_eq_true_iff.mp hp
      obtain ⟨hlaidp, hlaidq⟩ := laid_append_iff.mp hlaid
      rw [length_instructions] at hlaidq
      exact .andThen p.within_ways (ihp hp hlaidp before after) fun taken _ => ihq hq hlaidq _ _
  | either p q ihp ihq =>
      obtain ⟨hp, hq⟩ := Bool.and_eq_true_iff.mp hp
      obtain ⟨hfork, hlaid⟩ := hlaid
      obtain ⟨hlaidp, hlaidq⟩ := laid_append_iff.mp hlaid
      rw [length_instructions] at hlaidq
      refine (becomes_onward hfork).trans ?_
      rw [ways, List.map_append]
      exact Becomes.append (ihp hp hlaidp before after) (ihq hq hlaidq before after)
  | optional p greedy ih => exact .orNothing hlaid.1 (ih hp hlaid.2 before after)
  | star p greedy ih =>
      obtain ⟨htakes, hp⟩ := Bool.and_eq_true_iff.mp hp
      exact goes_upTo p.within_ways (takes_ways htakes) hlaid.1 (ih hp hlaid.2) le_rfl
  | repeated p greedy ih =>
      obtain ⟨htakes, hp⟩ := Bool.and_eq_true_iff.mp hp
      obtain ⟨hlaidp, hiterate⟩ := laid_append_iff.mp hlaid
      rw [length_instructions] at hiterate
      refine Goes.andThen p.within_ways (ih hp hlaidp before after) fun taken _ => ?_
      refine goes_upTo p.within_ways (takes_ways htakes) hiterate.1 (ih hp hlaidp) ?_
      rw [List.length_drop]
      omega

theorem yields_program {p : Pattern} (hp : p.loopsTake = true) (before after : List Char) :
    Yields p.program (before ++ after).toArray [⟨0, before.length⟩]
      ((p.ways before after).head?.map fun taken => (before ++ taken).length) := by
  have hend : p.program[p.size]? = none := by simp
  refine goes_of_laid p hp p.laid_program before after [] _ ?_
  cases p.ways before after with
  | nil => exact ⟨0, .nothing⟩
  | cons taken rest => exact ⟨0, .found hend⟩

/-- A search without a trail leaves a state for others, in fewer steps and with the same
result. -/
def Leaves (program : Array Instruction) (text : Array Char) (state : State)
    (states : List State) : Prop :=
  ∀ steps waiting result, YieldsIn program text steps (state :: waiting) result →
    ∃ fewer < steps, YieldsIn program text fewer (states ++ waiting) result

/-- Each state that has been tried is left for some of those that wait first. -/
def Trail.Settled (program : Array Instruction) (text : Array Char) (trail : Trail)
    (waiting : List State) : Prop :=
  ∀ state : State, trail.contains state.instruction state.place = true →
    ∃ states, states <+: waiting ∧ Leaves program text state states

section Explore

variable {program : Array Instruction} {text : Array Char} {trail : Trail} {state : State}
  {states waiting : List State}

theorem leaves_onward {instruction : Instruction}
    (h : program[state.instruction]? = some instruction) :
    Leaves program text state (instruction.onward text state.place) := by
  intro steps waiting result hyields
  cases hyields with
  | found hnone =>
      rw [h] at hnone
      cases hnone
  | onward hother hnext =>
      obtain rfl := Option.some.inj (hother.symm.trans h)
      exact ⟨_, Nat.lt_succ_self _, hnext⟩

theorem Leaves.trans {other : State} {states' : List State}
    (h : Leaves program text state (other :: states))
    (hother : Leaves program text other states') :
    Leaves program text state (states' ++ states) := by
  intro steps waiting result hyields
  obtain ⟨fewer, hfewer, hnext⟩ := h steps waiting result hyields
  obtain ⟨fewest, hfewest, hlast⟩ := hother fewer (states ++ waiting) result hnext
  exact ⟨fewest, by omega, by rwa [List.append_assoc]⟩

/-- A search that comes back to a state does not end. -/
theorem Leaves.not_yieldsIn (h : Leaves program text state (state :: states)) {steps : ℕ}
    {result : Option ℕ} : ¬YieldsIn program text steps (state :: waiting) result := by
  induction steps using Nat.strongRecOn generalizing waiting with
  | ind steps ih =>
      intro hyields
      obtain ⟨fewer, hfewer, hnext⟩ := h steps waiting result hyields
      exact ih fewer hfewer hnext

theorem Trail.Settled.replace (h : trail.Settled program text (state :: waiting))
    (hstate : Leaves program text state states) :
    trail.Settled program text (states ++ waiting) := by
  intro tried htried
  obtain ⟨front, hfront, hleaves⟩ := h tried htried
  rcases List.prefix_cons_iff.mp hfront with rfl | ⟨rest, rfl, hrest⟩
  · exact ⟨[], List.nil_prefix, hleaves⟩
  · exact ⟨states ++ rest, (List.prefix_append_right_inj states).mpr hrest, hleaves.trans hstate⟩

theorem Trail.Settled.insert {instruction : Instruction}
    (h : trail.Settled program text (state :: waiting))
    (hinstruction : program[state.instruction]? = some instruction) :
    (trail.insert state.instruction state.place).Settled program text
      (instruction.onward text state.place ++ waiting) := by
  intro tried htried
  rw [Trail.contains_insert, Bool.or_eq_true, decide_eq_true_eq] at htried
  rcases htried with ⟨hsame, hplace⟩ | htried
  · obtain rfl : state = tried := by
      cases state
      cases tried
      simp_all
    exact ⟨_, List.prefix_append _ waiting, leaves_onward hinstruction⟩
  · exact h.replace (leaves_onward hinstruction) tried htried

/-- Within a bound that allows for it, a search finds what it finds without a trail. -/
theorem explore_of_yields {bound : ℕ} {result : Option ℕ}
    (hsettled : trail.Settled program text waiting)
    (hplaces : ∀ state ∈ waiting, state.place ≤ text.size)
    (hbound : waiting.length + 2 * trail.untried program text < bound)
    (h : Yields program text waiting result) :
    (explore program text bound trail waiting).2 = result ∧
      (result = none → (explore program text bound trail waiting).1.Settled program text []) := by
  obtain ⟨steps, h⟩ := h
  induction bound generalizing trail waiting steps with
  | zero => omega
  | succ bound ih =>
      cases waiting with
      | nil =>
          cases h
          exact ⟨rfl, fun _ => hsettled⟩
      | cons state waiting =>
          obtain ⟨hplace, hplaces⟩ := List.forall_mem_cons.mp hplaces
          rw [List.length_cons] at hbound
          rw [explore]
          by_cases htried : trail.contains state.instruction state.place = true
          · rw [if_pos htried]
            obtain ⟨front, hfront, hleaves⟩ := hsettled state htried
            rcases List.prefix_cons_iff.mp hfront with rfl | ⟨rest, rfl, -⟩
            · obtain ⟨fewer, -, hnext⟩ := hleaves steps waiting result h
              exact ih (hsettled.replace hleaves) hplaces (by omega) fewer hnext
            · exact absurd h hleaves.not_yieldsIn
          · rw [if_neg htried]
            cases h with
            | found hnone =>
                rw [hnone]
                exact ⟨rfl, fun hsome => absurd hsome (Option.some_ne_none _)⟩
            | @onward _ _ instruction steps _ hinstruction hnext =>
                rw [hinstruction]
                exact ih (hsettled.insert hinstruction) (place_le_of_mem_append hplace hplaces)
                  (bound_onward hinstruction hplace htried hbound) steps hnext

theorem settled_empty : Trail.empty.Settled program text [] := by
  intro state h
  simp at h

theorem firstFrom_of_yields {found : ℕ → Option ℕ} {starts i start stop : ℕ}
    (hsettled : trail.Settled program text [])
    (hyields : ∀ place ≤ text.size, Yields program text [⟨0, place⟩] (found place))
    (hstarts : i + starts ≤ text.size + 1)
    (h : firstFrom program text starts trail i = some (start, stop)) :
    found start = some stop := by
  induction starts generalizing trail i with
  | zero => cases h
  | succ starts ih =>
      have hi : i ≤ text.size := by omega
      have hwaiting : trail.Settled program text [⟨0, i⟩] := by
        intro state hstate
        obtain ⟨states, hstates, hleaves⟩ := hsettled state hstate
        obtain rfl := List.prefix_nil.mp hstates
        exact ⟨[], List.nil_prefix, hleaves⟩
      obtain ⟨hresult, hafter⟩ := explore_of_yields hwaiting (by simpa using hi)
        (bound_start program text trail i) (hyields i hi)
      rw [firstFrom] at h
      cases hexplore : explore program text (exploreBound program text) trail [⟨0, i⟩] with
      | mk after result =>
          rw [hexplore] at h hresult hafter
          cases result with
          | some end' =>
              obtain ⟨rfl, rfl⟩ := Prod.mk.inj (Option.some.inj h)
              exact hresult.symm
          | none => exact ih (hafter hresult.symm) (by omega) h

end Explore

/-- The first match takes the preferred one of the stretches at its start. -/
theorem first?_takes_preferred {p : Pattern} (hp : p.loopsTake = true) {text : List Char}
    {i start stop : ℕ} (hi : i ≤ text.length + 1)
    (h : first? p.program text.toArray i = some (start, stop)) :
    ∃ taken, (p.ways (text.take start) (text.drop start)).head? = some taken ∧
      stop = (text.take start ++ taken).length := by
  have hyields : ∀ place ≤ text.toArray.size, Yields p.program text.toArray [⟨0, place⟩]
      ((p.ways (text.take place) (text.drop place)).head?.map fun taken =>
        (text.take place ++ taken).length) := by
    intro place hplace
    rw [List.size_toArray] at hplace
    have hprogram := yields_program hp (text.take place) (text.drop place)
    rwa [List.take_append_drop, List.length_take_of_le hplace] at hprogram
  rw [first?, List.size_toArray] at h
  have hfound := firstFrom_of_yields settled_empty hyields
    (by rw [List.size_toArray]; omega) h
  obtain ⟨taken, htaken, hstop⟩ := Option.map_eq_some_iff.mp hfound
  exact ⟨taken, htaken, hstop.symm⟩

end Honeypot.Pattern
