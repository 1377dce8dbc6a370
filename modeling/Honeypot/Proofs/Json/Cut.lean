import Honeypot.Proofs.Json.Token
import Mathlib.Data.List.Induction
import Mathlib.Tactic.SplitIfs

namespace Honeypot.Json.Scanner

def markChar? : Token → Option Char
  | .arrayStart => some '['
  | .arrayEnd => some ']'
  | .objectStart => some '\x7b'
  | .objectEnd => some '\x7d'
  | .comma => some ','
  | .colon => some ':'
  | _ => none

theorem markToken?_eq_some_iff {c : Char} {token : Token} :
    markToken? c = some token ↔ markChar? token = some c := by
  constructor
  · intro h
    simp only [markToken?, beq_iff_eq] at h
    split_ifs at h with h₁ h₂ h₃ h₄ h₅ h₆ <;> obtain rfl := Option.some.inj h
    exacts [congrArg some h₁.symm, congrArg some h₂.symm, congrArg some h₃.symm,
      congrArg some h₄.symm, congrArg some h₅.symm, congrArg some h₆.symm]
  · intro h
    cases token <;> first | (obtain rfl := Option.some.inj h; rfl) | cases h

theorem markChar?_of_wordToken? {word : List Char} {token : Token}
    (h : wordToken? word = some token) : markChar? token = none := by
  unfold wordToken? at h
  split_ifs at h
  · obtain rfl := Option.some.inj h
    rfl
  · obtain rfl := Option.some.inj h
    rfl
  · obtain rfl := Option.some.inj h
    rfl
  · obtain ⟨n, -, rfl⟩ := Option.map_eq_some_iff.mp h
    rfl

/-- The scanner with some more tokens before all its own. -/
def above (s : Scanner) (base : List Token) : Scanner := ⟨s.within, s.reversed ++ base⟩

theorem stepGap_above (tokens base : List Token) (c : Char) :
    stepGap (tokens ++ base) c = (stepGap tokens c).map (·.above base) := by
  unfold stepGap
  split
  · rfl
  · split
    · rfl
    · split
      · rfl
      · rw [Option.map_map]
        rfl

theorem step_above (s : Scanner) (base : List Token) (c : Char) :
    step (s.above base) c = (step s c).map (·.above base) := by
  rcases s with ⟨_ | word | written | written, tokens⟩
  · exact stepGap_above tokens base c
  · show (if isBareChar c = true then _ else _) =
        Option.map _ (if isBareChar c = true then _ else _)
    split
    · rfl
    · cases wordToken? word.reverse with
      | none => rfl
      | some token => exact stepGap_above (token :: tokens) base c
  · show (if (c == '"') = true then _ else if (c == '\\') = true then _ else _) =
      Option.map _ (if (c == '"') = true then _ else if (c == '\\') = true then _ else _)
    split
    · rw [Option.map_map]
      rfl
    · split <;> rfl
  · rfl

theorem foldlM_above (text : List Char) (s : Scanner) (base : List Token) :
    text.foldlM step (s.above base) = (text.foldlM step s).map (·.above base) := by
  induction text generalizing s with
  | nil => rfl
  | cons c text ih =>
      rw [List.foldlM_cons, List.foldlM_cons, step_above]
      cases step s c with
      | none => rfl
      | some s' => exact ih s'

theorem Behind.above {s : Scanner} {tokens : List Token} (h : Behind s tokens)
    (base : List Token) :
    Behind (s.above base) (tokens ++ base) := by
  cases h with
  | gap => exact .gap _
  | word _ hword => exact .word _ hword

theorem Behind.of_above {s : Scanner} {tokens base : List Token}
    (h : Behind (s.above base) (tokens ++ base)) : Behind s tokens := by
  obtain ⟨within, reversed⟩ := s
  generalize hall : tokens ++ base = all at h
  cases h with
  | gap =>
      obtain rfl := List.append_cancel_right hall
      exact .gap _
  | word _ hword =>
      obtain rfl := List.append_cancel_right (hall.trans (List.cons_append ..).symm)
      exact .word _ hword

/-- Where a scan starts makes no difference, since nothing before it is looked at. -/
theorem scans_iff {text : List Char} {tokens : List Token} :
    Scans text tokens ↔ ∃ s, text.foldlM step start = some s ∧ Behind s tokens.reverse := by
  constructor
  · intro h
    obtain ⟨s, hs, hbehind⟩ := h []
    exact ⟨s, hs, by rwa [List.append_nil] at hbehind⟩
  · rintro ⟨s, hs, hbehind⟩ before
    refine ⟨s.above before, ?_, hbehind.above before⟩
    have habove := foldlM_above text start before
    rw [hs] at habove
    exact habove

theorem behind_of_finish {s : Scanner} {tokens : List Token} (h : finish s = some tokens) :
    Behind s tokens.reverse := by
  rcases s with ⟨_ | word | written | written, reversed⟩
  · obtain rfl := Option.some.inj h
    rw [List.reverse_reverse]
    exact .gap _
  · obtain ⟨token, hword, rfl⟩ := Option.map_eq_some_iff.mp h
    rw [List.reverse_reverse]
    exact .word _ hword
  · cases h
  · cases h

theorem scan?_eq_some_iff {text : List Char} {tokens : List Token} :
    scan? text = some tokens ↔ Scans text tokens := by
  constructor
  · intro h
    obtain ⟨s, hs, hfinish⟩ := Option.bind_eq_some_iff.mp h
    exact scans_iff.mpr ⟨s, hs, behind_of_finish hfinish⟩
  · exact scan?_of_scans

/-- Some tokens added to others bring no mark. -/
def Plain (added : List Token) : Prop := ∀ token ∈ added, markChar? token = none

theorem plain_nil : Plain [] := nofun

theorem plain_singleton {token : Token} (h : markChar? token = none) : Plain [token] :=
  List.forall_mem_singleton.mpr h

theorem Behind.exists_plain {s : Scanner} {tokens : List Token} (h : Behind s tokens) :
    ∃ added, Plain added ∧ tokens = added ++ s.reversed := by
  cases h with
  | gap => exact ⟨[], plain_nil, rfl⟩
  | word _ hword => exact ⟨[_], plain_singleton (markChar?_of_wordToken? hword), rfl⟩

theorem stepGap_cases {tokens : List Token} {c : Char} {s : Scanner}
    (h : stepGap tokens c = some s) :
    s.reversed = tokens ∨ ∃ mark, markToken? c = some mark ∧ s = ⟨.gap, mark :: tokens⟩ := by
  unfold stepGap at h
  split_ifs at h
  · obtain rfl := Option.some.inj h
    exact .inl rfl
  · obtain rfl := Option.some.inj h
    exact .inl rfl
  · obtain rfl := Option.some.inj h
    exact .inl rfl
  · obtain ⟨mark, hmark, rfl⟩ := Option.map_eq_some_iff.mp h
    exact .inr ⟨mark, hmark, rfl⟩

/-- A step adds no mark, or it adds a mark behind all tokens before it. -/
theorem step_cases {s s' : Scanner} {c : Char} (h : step s c = some s') :
    (∃ added, Plain added ∧ s'.reversed = added ++ s.reversed) ∨
    ∃ tokens mark, Behind s tokens ∧ markToken? c = some mark ∧ s' = ⟨.gap, mark :: tokens⟩ := by
  have hsame {tokens : List Token} (hbehind : Behind s tokens) (h : stepGap tokens c = some s') :
      (∃ added, Plain added ∧ s'.reversed = added ++ s.reversed) ∨
      ∃ tokens mark, Behind s tokens ∧ markToken? c = some mark ∧
        s' = ⟨.gap, mark :: tokens⟩ := by
    rcases stepGap_cases h with hreversed | ⟨mark, hmark, rfl⟩
    · obtain ⟨added, hplain, rfl⟩ := hbehind.exists_plain
      exact .inl ⟨added, hplain, hreversed⟩
    · exact .inr ⟨tokens, mark, hbehind, hmark, rfl⟩
  rcases s with ⟨_ | word | written | written, tokens⟩
  · exact hsame (.gap tokens) h
  · simp only [step] at h
    split_ifs at h
    · obtain rfl := Option.some.inj h
      exact .inl ⟨[], plain_nil, rfl⟩
    · obtain ⟨token, hword, h⟩ := Option.bind_eq_some_iff.mp h
      exact hsame (.word tokens hword) h
  · simp only [step] at h
    split_ifs at h
    · obtain ⟨content, -, rfl⟩ := Option.map_eq_some_iff.mp h
      exact .inl ⟨[.text content], plain_singleton rfl, rfl⟩
    · obtain rfl := Option.some.inj h
      exact .inl ⟨[], plain_nil, rfl⟩
    · obtain rfl := Option.some.inj h
      exact .inl ⟨[], plain_nil, rfl⟩
  · obtain rfl := Option.some.inj h
    exact .inl ⟨[], plain_nil, rfl⟩

theorem Plain.split {added tokens later first : List Token} {mark : Token} {c : Char}
    (h : Plain added) (hmark : markToken? c = some mark)
    (hall : added ++ tokens = later ++ mark :: first) :
    ∃ later', tokens = later' ++ mark :: first := by
  rcases List.append_eq_append_iff.mp hall with ⟨later', -, htokens⟩ | ⟨added', hadded, hrest⟩
  · exact ⟨later', htokens⟩
  · cases added' with
    | nil => exact ⟨[], hrest.symm⟩
    | cons token added' =>
        obtain ⟨rfl, -⟩ := List.cons.inj hrest
        have hnone := h mark (by simp [hadded])
        rw [markToken?_eq_some_iff, hnone] at hmark
        cases hmark

/-- A text is cut at a character: some tokens are scanned from what is before it, and the scanner
has gone over what is after it from the start. -/
def CutAt (text : List Char) (c : Char) (s : Scanner) (first : List Token)
    (mark : Token) : Prop :=
  ∃ front rest s', text = front ++ c :: rest ∧ Scans front first ∧
    rest.foldlM step start = some s' ∧ s = s'.above (mark :: first.reverse)

theorem CutAt.step {text : List Char} {c c' : Char} {s s' : Scanner} {first : List Token}
    {mark : Token} (h : CutAt text c s first mark) (hstep : Scanner.step s c' = some s') :
    CutAt (text ++ [c']) c s' first mark := by
  obtain ⟨front, rest, r, rfl, hfront, hrest, rfl⟩ := h
  rw [step_above] at hstep
  obtain ⟨r', hr, rfl⟩ := Option.map_eq_some_iff.mp hstep
  refine ⟨front, rest ++ [c'], r', by simp, hfront, ?_, rfl⟩
  rw [foldlM_append_of_eq_some hrest, foldlM_cons_of_eq_some hr]
  rfl

theorem cutAt_of_reversed {text : List Char} {c : Char} {s : Scanner} {first later : List Token}
    {mark : Token} (hmark : markToken? c = some mark) (hs : text.foldlM step start = some s)
    (hreversed : s.reversed = later ++ mark :: first.reverse) : CutAt text c s first mark := by
  -- From the end: what the last character adds is either behind the mark, which then was there
  -- before, or it is the mark itself, and the text is cut at this character.
  induction text using List.reverseRecOn generalizing s later with
  | nil =>
      obtain rfl := Option.some.inj hs
      cases later <;> cases hreversed
  | append_singleton text c' ih =>
      rw [List.foldlM_append] at hs
      obtain ⟨s₀, hs₀, hstep⟩ := Option.bind_eq_some_iff.mp hs
      replace hstep : Scanner.step s₀ c' = some s := by simpa using hstep
      rcases step_cases hstep with ⟨added, hplain, hadded⟩ | ⟨tokens, mark', hbehind, hmark', rfl⟩
      · obtain ⟨later', hlater⟩ := hplain.split hmark (hadded.symm.trans hreversed)
        exact (ih hs₀ hlater).step hstep
      · cases later with
        | nil =>
            obtain ⟨rfl, rfl⟩ := List.cons.inj hreversed
            obtain rfl : c' = c := by
              rw [markToken?_eq_some_iff] at hmark hmark'
              exact Option.some.inj (hmark'.symm.trans hmark)
            exact ⟨text, [], start, rfl, scans_iff.mpr ⟨s₀, hs₀, hbehind⟩, rfl, rfl⟩
        | cons token later =>
            obtain ⟨rfl, htokens⟩ := List.cons.inj hreversed
            obtain ⟨added, hplain, rfl⟩ := hbehind.exists_plain
            obtain ⟨later', hlater⟩ := hplain.split hmark htokens
            exact (ih hs₀ hlater).step hstep

theorem Scans.cut {text : List Char} {c : Char} {mark : Token} {first later : List Token}
    (h : Scans text (first ++ mark :: later)) (hmark : markToken? c = some mark) :
    ∃ front rest, text = front ++ c :: rest ∧ Scans front first ∧ Scans rest later := by
  obtain ⟨s, hs, hbehind⟩ := scans_iff.mp h
  have hreverse :
      (first ++ mark :: later).reverse = later.reverse ++ mark :: first.reverse := by simp
  rw [hreverse] at hbehind
  obtain ⟨added, hplain, hadded⟩ := hbehind.exists_plain
  obtain ⟨later', hlater⟩ := hplain.split hmark hadded.symm
  obtain ⟨front, rest, s', rfl, hfront, hrest, rfl⟩ := cutAt_of_reversed hmark hs hlater
  exact ⟨front, rest, rfl, hfront, scans_iff.mpr ⟨s', hrest, hbehind.of_above⟩⟩

theorem standsAlone_of_markToken? {c : Char} {mark : Token} (h : markToken? c = some mark) :
    isGapChar c = false ∧ (c == '"') = false ∧ isBareChar c = false := by
  rw [markToken?_eq_some_iff] at h
  cases mark <;> first | (obtain rfl := Option.some.inj h; decide) | cases h

theorem Scans.join {front rest : List Char} {c : Char} {mark : Token} {first later : List Token}
    (hfront : Scans front first) (hmark : markToken? c = some mark) (hrest : Scans rest later) :
    Scans (front ++ c :: rest) (first ++ mark :: later) := by
  intro before
  have hc := standsAlone_of_markToken? hmark
  obtain ⟨s, hs, hbehind⟩ := hfront before
  obtain ⟨s', hs', hbehind'⟩ := hrest (mark :: (first.reverse ++ before))
  have hstep : step s c = some ⟨.gap, mark :: (first.reverse ++ before)⟩ := by
    rw [hbehind.step hc.2.2]
    simp [stepGap, hc, hmark]
  refine ⟨s', ?_, ?_⟩
  · rw [foldlM_append_of_eq_some hs, foldlM_cons_of_eq_some hstep, hs']
  · simpa using hbehind'

theorem step_eq_start {s : Scanner} {c : Char} (h : step s c = some start) :
    s = start ∧ isGapChar c = true := by
  have hgap {tokens : List Token} (h : stepGap tokens c = some start) :
      tokens = [] ∧ isGapChar c = true := by
    unfold stepGap at h
    split_ifs at h with hc hquote hbare
    · obtain rfl := (Scanner.mk.inj (Option.some.inj h)).2
      exact ⟨rfl, hc⟩
    · cases h
    · cases h
    · obtain ⟨mark, -, hmark⟩ := Option.map_eq_some_iff.mp h
      cases hmark
  rcases s with ⟨_ | word | written | written, tokens⟩
  · obtain ⟨rfl, hc⟩ := hgap h
    exact ⟨rfl, hc⟩
  · simp only [step] at h
    split_ifs at h
    · cases h
    · obtain ⟨token, -, h⟩ := Option.bind_eq_some_iff.mp h
      cases (hgap h).1
  · simp only [step] at h
    split_ifs at h
    · obtain ⟨content, -, h⟩ := Option.map_eq_some_iff.mp h
      cases h
    · cases h
    · cases h
  · cases h

theorem foldlM_eq_start_iff {text : List Char} :
    text.foldlM step start = some start ↔ ∀ c ∈ text, isGapChar c = true := by
  induction text using List.reverseRecOn with
  | nil => simp
  | append_singleton text c ih =>
      rw [List.foldlM_append, List.forall_mem_append, List.forall_mem_singleton]
      constructor
      · intro h
        obtain ⟨s, hs, hstep⟩ := Option.bind_eq_some_iff.mp h
        obtain ⟨rfl, hc⟩ := step_eq_start (by simpa using hstep)
        exact ⟨ih.mp hs, hc⟩
      · rintro ⟨htext, hc⟩
        have hstep : step start c = some start := if_pos hc
        rw [ih.mpr htext]
        exact foldlM_cons_of_eq_some hstep []

theorem scans_nil_iff {text : List Char} : Scans text [] ↔ ∀ c ∈ text, isGapChar c = true := by
  rw [← foldlM_eq_start_iff, scans_iff]
  constructor
  · rintro ⟨s, hs, hbehind⟩
    cases hbehind with
    | gap => exact hs
  · intro hs
    exact ⟨start, hs, .gap []⟩

end Honeypot.Json.Scanner
