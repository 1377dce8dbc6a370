import Honeypot.Pattern.CharSet
import Mathlib.Data.List.Basic

namespace Honeypot

/-- Holds for the characters of ASCII that are no letters. -/
def IsMark (c : Char) : Prop := c.toNat < 0x80 ∧ c ≠ '\x00' ∧ c.isAlpha = false

instance (c : Char) : Decidable (IsMark c) := inferInstanceAs (Decidable (_ ∧ _))

variable {c d : Char} {code target : ℕ}

theorem toLower_of_ascii (h : c.toNat < 0x80) :
    c.toLower = c ∨ c.isAlpha = true ∧ c.toLower.isAlpha = true := by
  have hall : ∀ code < 0x80, (Char.ofNat code).toLower = Char.ofNat code ∨
      (Char.ofNat code).isAlpha = true ∧ (Char.ofNat code).toLower.isAlpha = true := by decide
  simpa only [Char.ofNat_toNat] using hall c.toNat h

theorem toUpper_of_ascii (h : c.toNat < 0x80) : c.toUpper = c ∨ c.toUpper.isAlpha = true := by
  have hall : ∀ code < 0x80, (Char.ofNat code).toUpper = Char.ofNat code ∨
      (Char.ofNat code).toUpper.isAlpha = true := by decide
  simpa only [Char.ofNat_toNat] using hall c.toNat h

theorem isAlpha_ofNat (hfirst : 0x61 ≤ code) (hlast : code ≤ 0x7A) :
    (Char.ofNat code).isAlpha = true := by
  have hall : ∀ code ≤ 0x7A, 0x61 ≤ code → (Char.ofNat code).isAlpha = true := by decide
  exact hall code hlast hfirst

theorem toNat_of_ofNat_eq (hd : d ≠ '\x00') (h : Char.ofNat code = d) : d.toNat = code := by
  subst h
  by_cases hvalid : code.isValidChar
  · rw [Char.ofNat, dif_pos hvalid]
    rfl
  · exact absurd (dif_neg hvalid) hd

theorem covers_iff {run : CaseRun} : run.covers code = true ↔
    run.first ≤ code ∧ code ≤ run.last ∧ (code - run.first) % run.step = 0 := by
  simp only [CaseRun.covers, Bool.and_eq_true, decide_eq_true_eq, beq_iff_eq, and_assoc]

/-- What is beyond ASCII is folded to what is beyond ASCII, or to a letter. -/
theorem apply_foldingRuns (h : 0x80 ≤ code) : 0x80 ≤ CaseRun.apply foldingRuns code ∨
    0x61 ≤ CaseRun.apply foldingRuns code ∧ CaseRun.apply foldingRuns code ≤ 0x7A := by
  have hruns : ∀ run ∈ foldingRuns, 0x80 ≤ run.first + run.shift ∨
      run.first = run.last ∧ 0x61 ≤ run.first + run.shift ∧ run.first + run.shift ≤ 0x7A := by
    decide +kernel
  rw [CaseRun.apply]
  cases hrun : foldingRuns.find? (·.covers code) with
  | none => exact .inl h
  | some run =>
      have hcovers := List.find?_some hrun
      obtain ⟨hfirst, hlast, -⟩ := covers_iff.mp hcovers
      have := hruns run (List.mem_of_find?_eq_some hrun)
      dsimp only
      omega

theorem le_of_mem_sources (h : code ∈ CaseRun.sources foldingRuns target) : 0x80 ≤ code := by
  have hruns : ∀ run ∈ foldingRuns, 0x80 ≤ run.first := by decide +kernel
  rw [CaseRun.sources, List.mem_filterMap] at h
  obtain ⟨run, hrun, hcode⟩ := h
  dsimp only at hcode
  split at hcode
  · rename_i hcovers
    obtain rfl := Option.some.inj hcode
    have hfirst := (covers_iff.mp (Bool.and_eq_true_iff.mp hcovers).2).1
    exact Nat.le_trans (hruns run hrun) hfirst
  · cases hcode

namespace IsMark

theorem foldChar_eq_self (hd : IsMark d) : foldChar d = d := by
  obtain ⟨hascii, -, hletter⟩ := hd
  rw [foldChar, if_pos hascii]
  exact (toLower_of_ascii hascii).resolve_right fun h => by simp [hletter] at h

theorem foldChar_eq_iff (hd : IsMark d) : foldChar c = d ↔ c = d := by
  refine ⟨fun h => ?_, fun h => h ▸ (h ▸ hd).foldChar_eq_self⟩
  obtain ⟨hascii, hzero, hletter⟩ := hd
  rw [foldChar] at h
  split at h
  · rename_i hc
    rcases toLower_of_ascii hc with hsame | ⟨-, halpha⟩
    · rw [← h, hsame]
    · rw [h, hletter] at halpha
      cases halpha
  · rename_i hc
    have hcode := toNat_of_ofNat_eq hzero h
    rcases apply_foldingRuns (Nat.le_of_not_lt hc) with hbeyond | ⟨hfirst, hlast⟩
    · omega
    · have halpha := isAlpha_ofNat hfirst hlast
      rw [h, hletter] at halpha
      cases halpha

theorem mem_caseVariants_iff (hd : IsMark d) : d ∈ caseVariants c ↔ c = d := by
  rw [caseVariants, List.mem_eraseDups, List.mem_append, List.mem_map]
  constructor
  · rintro (h | ⟨code, hcode, h⟩)
    · rw [← hd.foldChar_eq_iff]
      split at h
      · rename_i hascii
        rcases List.mem_cons.mp h with h | h
        · exact h.symm
        · obtain rfl := List.mem_singleton.mp h
          refine ((toUpper_of_ascii hascii).resolve_right fun halpha => ?_).symm
          rw [hd.2.2] at halpha
          cases halpha
      · exact (List.mem_singleton.mp h).symm
    · have := le_of_mem_sources hcode
      have := toNat_of_ofNat_eq hd.2.1 h
      have := hd.1
      omega
  · rintro rfl
    rw [hd.foldChar_eq_self, if_pos hd.1]
    exact .inl List.mem_cons_self

end IsMark

theorem map_foldChar_eq_iff {marks text : List Char} (h : ∀ d ∈ marks, IsMark d) :
    text.map foldChar = marks ↔ text = marks := by
  induction marks generalizing text with
  | nil => exact List.map_eq_nil_iff
  | cons d marks ih =>
      obtain ⟨hd, hmarks⟩ := List.forall_mem_cons.mp h
      simp only [List.map_eq_cons_iff, hd.foldChar_eq_iff, ih hmarks]
      constructor
      · rintro ⟨_, _, rfl, rfl, rfl⟩
        rfl
      · rintro rfl
        exact ⟨d, marks, rfl, rfl, rfl⟩

namespace CharSet

theorem contains_ignoringCase_char_iff :
    (ignoringCase (char d)).contains c = true ↔ foldChar c = foldChar d := by
  rw [contains, beq_iff_eq]

theorem contains_unions_iff : (unions [char d]).contains c = true ↔ c = d := beq_iff_eq

theorem contains_ignoringCase_unions_iff (hd : IsMark d) :
    (ignoringCase (unions [char d])).contains c = true ↔ c = d := by
  have hvariants : (ignoringCase (unions [char d])).contains c =
      (caseVariants c).any (unions [char d]).contains := rfl
  rw [hvariants, List.any_eq_true, ← hd.mem_caseVariants_iff]
  simp only [contains_unions_iff, exists_eq_right]

end CharSet

end Honeypot
