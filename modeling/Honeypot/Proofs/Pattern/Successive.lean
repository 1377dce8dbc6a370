import Honeypot.Proofs.Pattern.Preference

namespace Honeypot.Pattern

/-- A pattern matches the stretch of a text between two places. -/
def MatchesAt (p : Pattern) (text : List Char) (start stop : ℕ) : Prop :=
  ∃ before taken after, text = before ++ taken ++ after ∧ p.Matches before taken after ∧
    before.length = start ∧ (before ++ taken).length = stop

/-- A match from the first place at which there is any, from a given place on. Of the stretches
that can be taken there it is the preferred one. Where an iteration could take nothing, which
stretch is found depends on the states that have been tried as well, and nothing is said of it. -/
structure FirstMatch (p : Pattern) (text : List Char) (i start stop : ℕ) : Prop where
  le_start : i ≤ start
  matchesAt : p.MatchesAt text start stop
  earlier : ∀ earlier, i ≤ earlier → earlier < start → ∀ stop, ¬p.MatchesAt text earlier stop
  preferred : p.loopsTake = true → ∃ taken,
    (p.ways (text.take start) (text.drop start)).head? = some taken ∧
      stop = (text.take start ++ taken).length

/-- The matches that are found one after the other from a place on, in a text where the match
before ended at `last`. The search goes on at the end of a match, or one character further if the
match is empty. An empty match at the end of the match before is passed over. -/
inductive Successive (p : Pattern) (text : List Char) : Option ℕ → ℕ → List (ℕ × ℕ) → Prop
  | done {last i} (h : ∀ start, i ≤ start → ∀ stop, ¬p.MatchesAt text start stop) :
      Successive p text last i []
  | found {last i start stop spans} (h : p.FirstMatch text i start stop)
      (hnew : start < stop ∨ last ≠ some start)
      (hrest : Successive p text (some stop) (max stop (start + 1)) spans) :
      Successive p text last i ((start, stop) :: spans)
  | skipped {last i start spans} (h : p.FirstMatch text i start start) (hlast : last = some start)
      (hrest : Successive p text last (start + 1) spans) : Successive p text last i spans

variable {p : Pattern} {text : List Char} {last : Option ℕ} {i start stop : ℕ}
  {spans : List (ℕ × ℕ)}

theorem MatchesAt.le (h : p.MatchesAt text start stop) : start ≤ stop ∧ stop ≤ text.length := by
  obtain ⟨before, taken, after, rfl, -, rfl, rfl⟩ := h
  simp only [List.length_append]
  omega

theorem leads_iff_matchesAt (h : start ≤ text.length) :
    Leads p.program text.toArray ⟨0, start⟩ stop ↔ p.MatchesAt text start stop := by
  obtain ⟨before, rest, rfl, rfl⟩ :
      ∃ before rest, text = before ++ rest ∧ before.length = start :=
    ⟨_, _, (List.take_append_drop start _).symm, List.length_take_of_le h⟩
  rw [leads_program_iff]
  constructor
  · rintro ⟨taken, after, rfl, hmatches, rfl⟩
    exact ⟨before, taken, after, by rw [List.append_assoc], hmatches, rfl, rfl⟩
  · rintro ⟨before', taken, after, htext, hmatches, hlength, rfl⟩
    rw [List.append_assoc] at htext
    obtain ⟨rfl, rfl⟩ := List.append_inj htext hlength.symm
    exact ⟨taken, after, rfl, hmatches, rfl⟩

theorem first?_cases (hi : i ≤ text.length + 1) :
    (first? p.program text.toArray i = none ∧
      ∀ start, i ≤ start → ∀ stop, ¬p.MatchesAt text start stop) ∨
    ∃ start stop, first? p.program text.toArray i = some (start, stop) ∧
      p.FirstMatch text i start stop := by
  rw [first?, List.size_toArray]
  have hclosed : Trail.empty.Closed p.program text.toArray [] := Trail.closed_empty
  have hstarts : i + (text.length + 1 - i) ≤ text.toArray.size + 1 := by
    rw [List.size_toArray]
    omega
  rcases firstFrom_cases hclosed hstarts with
    ⟨hfirst, hall⟩ | ⟨start, stop, hfirst, hlow, hhigh, hleads, hall⟩
  · refine .inl ⟨hfirst, fun start hstart stop hmatches => ?_⟩
    have hle := hmatches.le
    exact hall start hstart (by omega) stop ((leads_iff_matchesAt (by omega)).mpr hmatches)
  · refine .inr ⟨start, stop, hfirst, hlow, (leads_iff_matchesAt (by omega)).mp hleads, ?_, ?_⟩
    · intro earlier hearlier hlt stop hmatches
      exact hall earlier hearlier hlt stop ((leads_iff_matchesAt (by omega)).mpr hmatches)
    · exact fun hp =>
        first?_takes_preferred hp hi (by rw [first?, List.size_toArray]; exact hfirst)

theorem successive_spansFrom {count : ℕ} (hi : i ≤ text.length + 1)
    (hcount : text.length + 1 ≤ i + count) :
    p.Successive text last i (spansFrom p.program text.toArray count last i) := by
  induction count generalizing last i with
  | zero =>
      refine .done fun start hstart stop hmatches => ?_
      have hle := hmatches.le
      omega
  | succ count ih =>
      rw [spansFrom]
      rcases first?_cases (p := p) hi with ⟨hfirst, hnone⟩ | ⟨start, stop, hfirst, hmatch⟩
      · rw [hfirst]
        exact .done hnone
      · have hstart := hmatch.le_start
        have hle := hmatch.matchesAt.le
        rw [hfirst]
        dsimp only
        split
        · rename_i hlt
          refine .found hmatch (.inl hlt) ?_
          rw [max_eq_left hlt]
          exact ih (by omega) (by omega)
        · rename_i hge
          obtain rfl : start = stop := by omega
          split
          · rename_i hlast
            exact .skipped hmatch hlast (ih (by omega) (by omega))
          · rename_i hlast
            refine .found hmatch (.inr hlast) ?_
            rw [max_eq_right (Nat.le_succ start)]
            exact ih (by omega) (by omega)

theorem successive_spans (p : Pattern) (text : List Char) :
    p.Successive text none 0 (p.spans text.toArray) :=
  successive_spansFrom (Nat.zero_le _) (by simp)

namespace Successive

theorem matchesAt (h : p.Successive text last i spans) :
    ∀ span ∈ spans, i ≤ span.1 ∧ p.MatchesAt text span.1 span.2 := by
  induction h with
  | done => simp
  | found h _ _ ih =>
      refine List.forall_mem_cons.mpr ⟨⟨h.le_start, h.matchesAt⟩, fun span hspan => ?_⟩
      obtain ⟨hle, hmatches⟩ := ih span hspan
      have hstart := h.le_start
      exact ⟨by omega, hmatches⟩
  | skipped h _ _ ih =>
      intro span hspan
      obtain ⟨hle, hmatches⟩ := ih span hspan
      have hstart := h.le_start
      exact ⟨by omega, hmatches⟩

theorem apart (h : p.Successive text last i spans) :
    spans.Pairwise fun a b => a.1 < b.1 ∧ a.2 ≤ b.1 := by
  induction h with
  | done => exact .nil
  | found _ _ hrest ih =>
      refine List.pairwise_cons.mpr ⟨fun span hspan => ?_, ih⟩
      have hle := (hrest.matchesAt span hspan).1
      omega
  | skipped _ _ _ ih => exact ih

/-- A match is found, or it starts within one that is found, or it starts at the end of one and
there is an empty match there. -/
theorem complete (h : p.Successive text last i spans) (hmatch : p.MatchesAt text start stop)
    (hi : i ≤ start) :
    (∃ span ∈ spans, span.1 ≤ start ∧ (start = span.1 ∨ start < span.2)) ∨
      p.MatchesAt text start start ∧ (last = some start ∨ ∃ span ∈ spans, span.2 = start) := by
  induction h with
  | done hnone => exact absurd hmatch (hnone start hi stop)
  | @found last i first past spans hfirst _ _ ih =>
      rcases Nat.lt_or_ge start first with hbefore | hafter
      · exact absurd hmatch (hfirst.earlier start hi hbefore stop)
      · rcases Nat.lt_or_ge start (max past (first + 1)) with hwithin | hpast
        · exact .inl ⟨_, List.mem_cons_self, hafter, by omega⟩
        · rcases ih hpast with ⟨span, hspan, hcovers⟩ | ⟨hempty, hend | ⟨span, hspan, hend⟩⟩
          · exact .inl ⟨span, List.mem_cons_of_mem _ hspan, hcovers⟩
          · exact .inr ⟨hempty, .inr ⟨_, List.mem_cons_self, Option.some.inj hend⟩⟩
          · exact .inr ⟨hempty, .inr ⟨span, List.mem_cons_of_mem _ hspan, hend⟩⟩
  | @skipped last i first spans hfirst hlast _ ih =>
      rcases Nat.lt_trichotomy start first with hbefore | rfl | hafter
      · exact absurd hmatch (hfirst.earlier start hi hbefore stop)
      · exact .inr ⟨hfirst.matchesAt, .inl hlast⟩
      · exact ih hafter

end Successive

/-- The matches of a pattern in a text are never empty, and no two of them overlap. -/
structure LieApart (p : Pattern) (text : List Char) : Prop where
  nonempty : ∀ {start stop}, p.MatchesAt text start stop → start < stop
  eq_of_overlap : ∀ {start stop start' stop'}, p.MatchesAt text start stop →
    p.MatchesAt text start' stop' → start ≤ start' → start' < stop → start' = start ∧ stop' = stop

theorem Successive.mem_iff (h : p.Successive text none 0 spans) (hapart : p.LieApart text) :
    (start, stop) ∈ spans ↔ p.MatchesAt text start stop := by
  constructor
  · intro hmem
    exact (h.matchesAt _ hmem).2
  · intro hmatch
    rcases h.complete hmatch (Nat.zero_le _) with
      ⟨⟨first, past⟩, hspan, hle, hwithin⟩ | ⟨hempty, -⟩
    · have hfound := (h.matchesAt _ hspan).2
      have hlt : start < past := by
        have := hapart.nonempty hfound
        dsimp only at hwithin
        omega
      obtain ⟨rfl, rfl⟩ := hapart.eq_of_overlap hfound hmatch hle hlt
      exact hspan
    · exact absurd (hapart.nonempty hempty) (lt_irrefl _)

theorem occurrences_eq (p : Pattern) (text : String) :
    p.occurrences text = (p.spans text.toList.toArray).map fun span =>
      String.ofList ((text.toList.take span.2).drop span.1) := by
  rw [occurrences]
  refine List.map_congr_left fun span _ => ?_
  rw [Array.toList_extract, List.extract_eq_take_drop, List.drop_take]

end Honeypot.Pattern
