import Honeypot.Json.Token
import Honeypot.Proofs.Json.Text
import Honeypot.Proofs.Traverse

namespace Honeypot

namespace Json.Scanner

theorem isBareChar_of_isDigit {c : Char} (h : c.isDigit = true) : isBareChar c = true := by
  simp [isBareChar, Char.isAlphanum, h]

theorem isBareChar_of_mem_splitMinus {text : List Char}
    (h : ∀ c ∈ (splitMinus text).2, isBareChar c = true) : ∀ c ∈ text, isBareChar c = true := by
  unfold splitMinus at h
  split at h
  · exact List.forall_mem_cons.mpr ⟨by decide, h⟩
  · exact h

theorem isBareChar_of_mem_splitSign {text : List Char}
    (h : ∀ c ∈ (splitSign text).2, isBareChar c = true) : ∀ c ∈ text, isBareChar c = true := by
  unfold splitSign at h
  split at h
  · exact List.forall_mem_cons.mpr ⟨by decide, h⟩
  · exact List.forall_mem_cons.mpr ⟨by decide, h⟩
  · exact h

theorem isBareChar_of_mem_splitDigits {text : List Char}
    (h : ∀ c ∈ (splitDigits text).2, isBareChar c = true) : ∀ c ∈ text, isBareChar c = true := by
  intro c hc
  rw [← List.takeWhile_append_dropWhile (p := Char.isDigit) (l := text)] at hc
  rcases List.mem_append.mp hc with hc | hc
  · exact isBareChar_of_isDigit (List.all_eq_true.mp List.all_takeWhile c hc)
  · exact h c hc

theorem isBareChar_of_mem_splitFraction {text digits rest : List Char}
    (hsplit : splitFraction text = some (digits, rest))
    (h : ∀ c ∈ rest, isBareChar c = true) : ∀ c ∈ text, isBareChar c = true := by
  unfold splitFraction at hsplit
  split at hsplit
  · rename_i tail
    simp only at hsplit
    split at hsplit
    · cases hsplit
    · obtain ⟨-, rfl⟩ := Prod.mk.inj (Option.some.inj hsplit)
      exact List.forall_mem_cons.mpr ⟨by decide, isBareChar_of_mem_splitDigits h⟩
  · obtain ⟨-, rfl⟩ := Prod.mk.inj (Option.some.inj hsplit)
    exact h

theorem isBareChar_of_mem_splitExponent {text rest : List Char} {exponent : Int}
    (hsplit : splitExponent text = some (exponent, rest))
    (h : ∀ c ∈ rest, isBareChar c = true) : ∀ c ∈ text, isBareChar c = true := by
  unfold splitExponent at hsplit
  split at hsplit
  · rename_i mark tail
    split at hsplit
    · rename_i hmark
      simp only at hsplit
      split at hsplit
      · cases hsplit
      · obtain ⟨-, rfl⟩ := Prod.mk.inj (Option.some.inj hsplit)
        refine List.forall_mem_cons.mpr ⟨?_, ?_⟩
        · rcases hmark with rfl | rfl <;> decide
        · exact isBareChar_of_mem_splitSign (isBareChar_of_mem_splitDigits h)
    · obtain ⟨-, rfl⟩ := Prod.mk.inj (Option.some.inj hsplit)
      exact h
  · intro c hc
    cases hc

theorem bare_of_ofText? {text : List Char} {n : Numeral} (h : Numeral.ofText? text = some n) :
    text ≠ [] ∧ ∀ c ∈ text, isBareChar c = true := by
  refine ⟨?_, ?_⟩
  · rintro rfl
    cases h
  · simp only [Numeral.ofText?] at h
    split at h
    · cases h
    · split at h
      · cases h
      · rename_i fraction tail hfraction
        split at h
        · rename_i hexponent
          apply isBareChar_of_mem_splitMinus
          apply isBareChar_of_mem_splitDigits
          apply isBareChar_of_mem_splitFraction hfraction
          apply isBareChar_of_mem_splitExponent hexponent
          simp
        · cases h

theorem wordToken?_of_ofText? {text : List Char} {n : Numeral}
    (h : Numeral.ofText? text = some n) : wordToken? text = some (.number n) := by
  have hname (name : List Char) (hbad : Numeral.ofText? name = none) : text ≠ name := by
    rintro rfl
    rw [hbad] at h
    cases h
  rw [wordToken?, if_neg (hname _ (by decide)), if_neg (hname _ (by decide)),
    if_neg (hname _ (by decide)), h, Option.map_some]

/-- The scanner stands behind some tokens, the last of which may still be a word without an
end. -/
inductive Behind : Scanner → List Token → Prop
  | gap (tokens : List Token) : Behind ⟨.gap, tokens⟩ tokens
  | word {reversed : List Char} {token : Token} (tokens : List Token)
      (h : wordToken? reversed.reverse = some token) :
      Behind ⟨.word reversed, tokens⟩ (token :: tokens)

theorem Behind.step {s : Scanner} {tokens : List Token} (h : Behind s tokens) {c : Char}
    (hc : isBareChar c = false) : step s c = stepGap tokens c := by
  cases h with
  | gap => rfl
  | word _ hword => simp [Scanner.step, hc, hword]

theorem Behind.finish {s : Scanner} {tokens : List Token} (h : Behind s tokens) :
    finish s = some tokens.reverse := by
  cases h with
  | gap => rfl
  | word _ hword => simp [Scanner.finish, hword]

/-- Some characters after a gap are scanned to some tokens. -/
def Scans (text : List Char) (tokens : List Token) : Prop :=
  ∀ before, ∃ s, text.foldlM step ⟨.gap, before⟩ = some s ∧ Behind s (tokens.reverse ++ before)

/-- Some characters after a gap are scanned to some tokens, and there is a gap after them. -/
def ScansWhole (text : List Char) (tokens : List Token) : Prop :=
  ∀ before, text.foldlM step ⟨.gap, before⟩ = some ⟨.gap, tokens.reverse ++ before⟩

theorem ScansWhole.scans {text : List Char} {tokens : List Token} (h : ScansWhole text tokens) :
    Scans text tokens := fun before => ⟨_, h before, .gap _⟩

theorem ScansWhole.append {front rest : List Char} {first later : List Token}
    (hfront : ScansWhole front first) (hrest : ScansWhole rest later) :
    ScansWhole (front ++ rest) (first ++ later) := by
  intro before
  rw [foldlM_append_of_eq_some (hfront before), hrest, List.reverse_append, List.append_assoc]

/-- Whatever starts with a mark ends the word before it. -/
theorem Scans.append {front rest : List Char} {first later : List Token} {c : Char}
    (hfront : Scans front first) (hc : isBareChar c = false)
    (hrest : ScansWhole (c :: rest) later) :
    ScansWhole (front ++ c :: rest) (first ++ later) := by
  intro before
  obtain ⟨s, hs, hbehind⟩ := hfront before
  have hstep : step s c = step ⟨.gap, first.reverse ++ before⟩ c := hbehind.step hc
  have hfold : (c :: rest).foldlM step s =
      (c :: rest).foldlM step ⟨.gap, first.reverse ++ before⟩ := by
    rw [List.foldlM_cons, List.foldlM_cons, hstep]
  rw [foldlM_append_of_eq_some hs, hfold, hrest, List.reverse_append, List.append_assoc]

theorem scansWhole_mark {c : Char} {token : Token} (hmark : markToken? c = some token)
    (h : isGapChar c = false ∧ (c == '"') = false ∧ isBareChar c = false) :
    ScansWhole [c] [token] := by
  intro before
  simp [step, stepGap, h, hmark]

theorem foldlM_bare {word : List Char} (h : ∀ c ∈ word, isBareChar c = true)
    (reversed : List Char) (tokens : List Token) :
    word.foldlM step ⟨.word reversed, tokens⟩ =
      some ⟨.word (word.reverse ++ reversed), tokens⟩ := by
  induction word generalizing reversed with
  | nil => rfl
  | cons c word ih =>
      obtain ⟨hc, hword⟩ := List.forall_mem_cons.mp h
      have hstep : step ⟨.word reversed, tokens⟩ c = some ⟨.word (c :: reversed), tokens⟩ := by
        simp [step, hc]
      rw [foldlM_cons_of_eq_some hstep, ih hword, List.reverse_cons, List.append_assoc,
        List.singleton_append]

theorem scans_word {word : List Char} {token : Token} (hne : word ≠ [])
    (h : ∀ c ∈ word, isBareChar c = true) (htoken : wordToken? word = some token) :
    Scans word [token] := by
  intro before
  obtain ⟨c, rest, rfl⟩ := List.exists_cons_of_ne_nil hne
  obtain ⟨hc, hrest⟩ := List.forall_mem_cons.mp h
  have hnogap : ∀ c, isBareChar c = true → isGapChar c = false ∧ (c == '"') = false := by
    intro c hc
    refine ⟨?_, ?_⟩
    · simp only [isGapChar, Bool.or_eq_false_iff, beq_eq_false_iff_ne]
      refine ⟨⟨⟨?_, ?_⟩, ?_⟩, ?_⟩ <;> rintro rfl <;> exact absurd hc (by decide)
    · rw [beq_eq_false_iff_ne]
      rintro rfl
      exact absurd hc (by decide)
  have hstep : step ⟨.gap, before⟩ c = some ⟨.word [c], before⟩ := by
    simp [step, stepGap, hnogap c hc, hc]
  refine ⟨⟨.word (rest.reverse ++ [c]), before⟩, ?_, ?_⟩
  · rw [foldlM_cons_of_eq_some hstep, foldlM_bare hrest]
  · refine .word before ?_
    rwa [List.reverse_append, List.reverse_reverse, List.reverse_singleton, List.singleton_append]

theorem scans_number {text : List Char} {n : Numeral} (h : Numeral.ofText? text = some n) :
    Scans text [.number n] :=
  scans_word (bare_of_ofText? h).1 (bare_of_ofText? h).2 (wordToken?_of_ofText? h)

theorem foldlM_escapeChar (c : Char) (reversed : List Char) (tokens : List Token) :
    (escapeChar c).foldlM step ⟨.text reversed, tokens⟩ =
      some ⟨.text ((escapeChar c).reverse ++ reversed), tokens⟩ := by
  rcases escapeChar_cases c with ⟨letter, _, _, hc⟩ | ⟨_, hc⟩ | ⟨hquote, hslash, _, hc⟩
  · rw [hc]
    rfl
  · have hdigit : ∀ n, hexDigit n ≠ '"' ∧ hexDigit n ≠ '\\' := by
      intro n
      have hsmall : ∀ k < 16, k.digitChar ≠ '"' ∧ k.digitChar ≠ '\\' := by decide
      exact hsmall (n % 16) (Nat.mod_lt n (by decide))
    rw [hc]
    simp [step, hdigit]
  · rw [hc]
    simp [step, hquote, hslash]

theorem scansWhole_writeText (text : String) :
    ScansWhole (writeText text) [.text (some text)] := by
  intro before
  have hstart : step ⟨.gap, before⟩ '"' = some ⟨.text [], before⟩ := rfl
  have hcontent (chars reversed : List Char) :
      (chars.flatMap escapeChar).foldlM step ⟨.text reversed, before⟩ =
        some ⟨.text ((chars.flatMap escapeChar).reverse ++ reversed), before⟩ := by
    induction chars generalizing reversed with
    | nil => rfl
    | cons c chars ih =>
        rw [List.flatMap_cons, foldlM_append_of_eq_some (foldlM_escapeChar c reversed before), ih,
          List.reverse_append, List.append_assoc]
  rw [writeText, foldlM_cons_of_eq_some hstart, foldlM_append_of_eq_some (hcontent _ _)]
  simp [step, readContent?_written]

end Json.Scanner

theorem Json.scan?_of_scans {text : List Char} {tokens : List Token}
    (h : Scanner.Scans text tokens) : scan? text = some tokens := by
  obtain ⟨s, hs, hbehind⟩ := h []
  rw [scan?, Scanner.start, hs, Option.bind_some, hbehind.finish, List.append_nil,
    List.reverse_reverse]

end Honeypot
