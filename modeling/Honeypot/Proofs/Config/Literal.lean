import Honeypot.Config.Environment
import Honeypot.Proofs.Number.Numeral
import Mathlib.Algebra.Group.Nat.Defs
import Mathlib.Data.List.DropRight
import Mathlib.Data.List.TakeWhile

namespace Honeypot

/-- The text of a natural number: digits, with or without a plus in front. -/
def IsNatural (text : List Char) (n : Nat) : Prop :=
  ∃ plus ∈ [[], ['+']], ∃ digits, text = plus ++ digits ∧ digits ≠ [] ∧
    (∀ c ∈ digits, c.isDigit) ∧ n = Nat.ofDigitChars 10 digits 0

def IsWord (text : List Char) (w : UInt64) : Prop := IsNatural text w.toNat

/-- The signs that may stand in front of a number, each with whether it is a minus. -/
def signs : List (List Char × Bool) := [([], false), (['+'], false), (['-'], true)]

/-- An exponent behind a number, which may be missing. -/
def IsExponent (text : List Char) (exponent : Int) : Prop :=
  text = [] ∧ exponent = 0 ∨
    ∃ mark sign negative digits, text = mark :: (sign ++ digits) ∧ (mark = 'e' ∨ mark = 'E') ∧
      (sign, negative) ∈ signs ∧ digits ≠ [] ∧ (∀ c ∈ digits, c.isDigit) ∧
      exponent = if negative then -(Nat.ofDigitChars 10 digits 0 : Int)
        else Nat.ofDigitChars 10 digits 0

/-- A decimal number without a sign: digits, on either side of a point if there is one, and an
exponent. -/
def IsDecimal (text : List Char) (d : Decimal) : Prop :=
  ∃ whole fraction tail exponent,
    (text = whole ++ tail ∧ fraction = [] ∨ text = whole ++ '.' :: (fraction ++ tail)) ∧
      whole ++ fraction ≠ [] ∧ (∀ c ∈ whole ++ fraction, c.isDigit) ∧ IsExponent tail exponent ∧
      d = ⟨Nat.ofDigitChars 10 (whole ++ fraction) 0, exponent - fraction.length⟩

/-- The names of infinity and of not-a-number, each with the pattern that it stands for. -/
def namedPatterns : List (List Char × Nat) :=
  [("inf".toList, Double.infinity), ("infinity".toList, Double.infinity),
    ("nan".toList, Double.infinity + Nat.pow 2 51)]

/-- The text of a double: behind a sign stands a decimal number, or a name in any case. -/
def IsDouble (text : List Char) (x : Float) : Prop :=
  ∃ sign negative unsigned, (sign, negative) ∈ signs ∧ text = sign ++ unsigned ∧
    ((∃ d, IsDecimal unsigned d ∧ x = Double.ofPattern negative d.pattern) ∨
      ∃ pattern, (unsigned.map Char.toLower, pattern) ∈ namedPatterns ∧
        x = Double.ofPattern negative pattern)

/-- A text without the blanks around it. -/
structure Trimmed (raw text : List Char) : Prop where
  exists_blanks : ∃ before after, raw = before ++ text ++ after ∧
    (∀ c ∈ before, isBlank c = true) ∧ ∀ c ∈ after, isBlank c = true
  head : ∀ c ∈ text.head?, ¬isBlank c = true
  last : ∀ c ∈ text.getLast?, ¬isBlank c = true

theorem dropWhile_eq_iff {α : Type} {p : α → Bool} {list rest : List α} :
    list.dropWhile p = rest ↔
      ∃ before, list = before ++ rest ∧ (∀ a ∈ before, p a = true) ∧
        ∀ a ∈ rest.head?, ¬p a = true := by
  constructor
  · rintro rfl
    refine ⟨list.takeWhile p, List.takeWhile_append_dropWhile.symm,
      fun a => List.mem_takeWhile_imp, ?_⟩
    intro a ha
    have hhead := List.head?_dropWhile_not p list
    rw [ha] at hhead
    exact Bool.not_eq_true _ ▸ hhead
  · rintro ⟨before, rfl, hbefore, hhead⟩
    rw [List.dropWhile_append_of_pos hbefore]
    cases rest with
    | nil => rfl
    | cons a rest => exact List.dropWhile_cons_of_neg (hhead a rfl)

theorem trimmed_iff {raw text : List Char} : Trimmed raw text ↔ trimBlanks raw = text := by
  rw [trimBlanks, List.reverse_eq_iff, dropWhile_eq_iff]
  constructor
  · rintro ⟨⟨before, after, rfl, hbefore, hafter⟩, hhead, hlast⟩
    have hfront :
        (before ++ text ++ after).dropWhile isBlank = (text ++ after).dropWhile isBlank := by
      rw [List.append_assoc, List.dropWhile_append_of_pos hbefore]
    rw [hfront]
    cases text with
    | nil =>
        have hnil : after.dropWhile isBlank = [] := List.dropWhile_eq_nil_iff.mpr hafter
        exact ⟨[], by rw [List.nil_append, hnil]; rfl, by simp, by simp⟩
    | cons c text =>
        rw [List.cons_append, List.dropWhile_cons_of_neg (hhead c rfl)]
        refine ⟨after.reverse, ?_, fun c hc => hafter c (List.mem_reverse.mp hc), ?_⟩
        · rw [← List.cons_append, List.reverse_append]
        · rwa [List.head?_reverse]
  · rintro ⟨after, hafter, hblank, hlast⟩
    obtain ⟨before, hraw, hbefore, hhead⟩ := dropWhile_eq_iff.mp (rfl : raw.dropWhile isBlank = _)
    rw [List.reverse_eq_iff, List.reverse_append, List.reverse_reverse] at hafter
    rw [hafter] at hraw hhead
    refine ⟨⟨before, after.reverse, by rw [hraw, List.append_assoc], hbefore, ?_⟩, ?_, ?_⟩
    · exact fun c hc => hblank c (List.mem_reverse.mp hc)
    · intro c hc
      exact hhead c (List.mem_head?_append_of_mem_head? hc)
    · rwa [List.head?_reverse] at hlast

theorem le_ofDigitChars (digits : List Char) (n : Nat) : n ≤ Nat.ofDigitChars 10 digits n := by
  induction digits generalizing n with
  | nil => exact Nat.le_refl n
  | cons c digits ih =>
      rw [Nat.ofDigitChars_cons]
      exact Nat.le_trans (by omega) (ih _)

theorem readDigits_eq_ok_iff {n m : Nat} {digits : List Char} (hn : n < 2 ^ 64) :
    readDigits n digits = .ok m ↔
      (∀ c ∈ digits, c.isDigit) ∧ m = Nat.ofDigitChars 10 digits n ∧ m < 2 ^ 64 := by
  induction digits generalizing n with
  | nil =>
      rw [readDigits, Nat.ofDigitChars_nil, Except.ok.injEq]
      constructor
      · rintro rfl
        exact ⟨by simp, rfl, hn⟩
      · rintro ⟨-, rfl, -⟩
        rfl
  | cons c digits ih =>
      rw [readDigits, List.forall_mem_cons, Nat.ofDigitChars_cons]
      split
      · rename_i hc
        dsimp only
        split
        · rename_i hfits
          rw [ih hfits, and_iff_right hc]
          rfl
        · rename_i hlarge
          refine iff_of_false nofun ?_
          rintro ⟨-, rfl, hm⟩
          exact hlarge (Nat.lt_of_le_of_lt (le_ofDigitChars digits _) hm)
      · rename_i hc
        exact iff_of_false nofun fun h => hc h.1.1

theorem isNatural_cons_plus {digits : List Char} {n : Nat} : IsNatural ('+' :: digits) n ↔
    digits ≠ [] ∧ (∀ c ∈ digits, c.isDigit) ∧ n = Nat.ofDigitChars 10 digits 0 := by
  constructor
  · rintro ⟨plus, hplus, digits', htext, hne, hdigits, hn⟩
    simp only [List.mem_cons, List.not_mem_nil, or_false] at hplus
    rcases hplus with rfl | rfl
    · rw [List.nil_append] at htext
      exact absurd (hdigits '+' (htext ▸ List.mem_cons_self)) (by decide)
    · obtain rfl := (List.cons.inj htext).2
      exact ⟨hne, hdigits, hn⟩
  · rintro ⟨hne, hdigits, hn⟩
    exact ⟨['+'], by simp, digits, rfl, hne, hdigits, hn⟩

theorem isNatural_of_ne_plus {text : List Char} {n : Nat} (h : ∀ digits, text ≠ '+' :: digits) :
    IsNatural text n ↔
      text ≠ [] ∧ (∀ c ∈ text, c.isDigit) ∧ n = Nat.ofDigitChars 10 text 0 := by
  constructor
  · rintro ⟨plus, hplus, digits, rfl, hne, hdigits, hn⟩
    simp only [List.mem_cons, List.not_mem_nil, or_false] at hplus
    rcases hplus with rfl | rfl
    · exact ⟨hne, hdigits, hn⟩
    · exact absurd rfl (h digits)
  · rintro ⟨hne, hdigits, hn⟩
    exact ⟨[], by simp, text, rfl, hne, hdigits, hn⟩

theorem readWord_eq_ok_iff {text : List Char} {w : UInt64} :
    readWord text = .ok w ↔ IsWord text w := by
  rw [IsWord]
  have hread (digits : List Char) :
      (if digits.isEmpty then .error "invalid digit found in string"
        else (readDigits 0 digits).map UInt64.ofNat : Except String UInt64) = .ok w ↔
      digits ≠ [] ∧ (∀ c ∈ digits, c.isDigit) ∧ w.toNat = Nat.ofDigitChars 10 digits 0 := by
    split
    · rename_i hnil
      exact iff_of_false nofun fun h => h.1 (List.isEmpty_iff.mp hnil)
    · rename_i hne
      rw [List.isEmpty_iff] at hne
      rw [and_iff_right hne]
      constructor
      · intro h
        cases hn : readDigits 0 digits with
        | error message =>
            rw [hn] at h
            cases h
        | ok n =>
            rw [hn] at h
            obtain rfl : UInt64.ofNat n = w := Except.ok.inj h
            obtain ⟨hdigits, rfl, hfits⟩ := (readDigits_eq_ok_iff (by decide)).mp hn
            exact ⟨hdigits, UInt64.toNat_ofNat_of_lt' hfits⟩
      · rintro ⟨hdigits, hw⟩
        have hn : readDigits 0 digits = .ok w.toNat :=
          (readDigits_eq_ok_iff (by decide)).mpr ⟨hdigits, hw, w.toNat_lt⟩
        rw [hn]
        exact congrArg Except.ok UInt64.ofNat_toNat
  unfold readWord
  dsimp only
  split
  · rw [hread, isNatural_cons_plus]
  · rename_i hplus
    rw [hread, isNatural_of_ne_plus fun digits h => hplus digits h]

theorem splitSign_append {sign rest : List Char} {negative : Bool}
    (hsign : (sign, negative) ∈ signs)
    (hrest : ∀ c ∈ rest.head?, c ≠ '+' ∧ c ≠ '-') :
    splitSign (sign ++ rest) = (negative, rest) := by
  simp only [signs, List.mem_cons, List.not_mem_nil, or_false, Prod.mk.injEq] at hsign
  rcases hsign with ⟨rfl, rfl⟩ | ⟨rfl, rfl⟩ | ⟨rfl, rfl⟩
  · rw [List.nil_append]
    unfold splitSign
    split
    · exact absurd rfl (hrest '-' rfl).2
    · exact absurd rfl (hrest '+' rfl).1
    · rfl
  · rfl
  · rfl

theorem exists_sign (text : List Char) :
    ∃ sign, (sign, (splitSign text).1) ∈ signs ∧ text = sign ++ (splitSign text).2 := by
  unfold splitSign
  split
  · exact ⟨['-'], by simp [signs], rfl⟩
  · exact ⟨['+'], by simp [signs], rfl⟩
  · exact ⟨[], by simp [signs], rfl⟩

theorem splitDigits_eq_iff {text digits rest : List Char} : splitDigits text = (digits, rest) ↔
    text = digits ++ rest ∧ (∀ c ∈ digits, c.isDigit) ∧ ∀ c ∈ rest.head?, ¬c.isDigit := by
  constructor
  · intro h
    obtain ⟨rfl, rfl⟩ := Prod.mk.inj h
    obtain ⟨-, -, -, hhead⟩ := dropWhile_eq_iff.mp (rfl : text.dropWhile Char.isDigit = _)
    exact ⟨List.takeWhile_append_dropWhile.symm, fun c => List.mem_takeWhile_imp, hhead⟩
  · rintro ⟨rfl, hdigits, hrest⟩
    exact splitDigits_append hdigits hrest

theorem splitDigits_of_isDigit {digits : List Char} (h : ∀ c ∈ digits, c.isDigit) :
    splitDigits digits = (digits, []) :=
  splitDigits_eq_iff.mpr ⟨(List.append_nil digits).symm, h, by simp⟩

theorem isDigit_of_splitDigits {text : List Char} (h : (splitDigits text).2 = []) :
    (splitDigits text).1 = text ∧ ∀ c ∈ text, c.isDigit := by
  have hdigits := List.dropWhile_eq_nil_iff.mp h
  exact ⟨List.takeWhile_eq_self_iff.mpr hdigits, hdigits⟩

theorem ne_sign_of_isDigit {c : Char} (h : c.isDigit = true) : c ≠ '+' ∧ c ≠ '-' := by
  constructor <;> rintro rfl <;> exact absurd h (by decide)

theorem splitExponent_eq_iff {text : List Char} {exponent : Int} :
    splitExponent text = some (exponent, []) ↔ IsExponent text exponent := by
  constructor
  · intro h
    unfold splitExponent at h
    split at h
    · rename_i mark rest
      split at h
      · rename_i hmark
        simp only at h
        split at h
        · cases h
        · rename_i hne
          obtain ⟨hexponent, hrest⟩ := Prod.mk.inj (Option.some.inj h)
          obtain ⟨sign, hsign, htext⟩ := exists_sign rest
          obtain ⟨hdigits, hall⟩ := isDigit_of_splitDigits hrest
          rw [hdigits] at hne hexponent
          exact .inr ⟨mark, sign, _, (splitSign rest).2, by rw [← htext], hmark, hsign, hne, hall,
            hexponent.symm⟩
      · cases h
    · exact .inl ⟨rfl, (Prod.mk.inj (Option.some.inj h)).1.symm⟩
  · rintro (⟨rfl, rfl⟩ | ⟨mark, sign, negative, digits, rfl, hmark, hsign, hne, hdigits, rfl⟩)
    · rfl
    · have hhead : ∀ c ∈ digits.head?, c ≠ '+' ∧ c ≠ '-' := fun c hc =>
        ne_sign_of_isDigit (hdigits c (List.mem_of_head? hc))
      simp only [splitExponent, if_pos hmark, splitSign_append hsign hhead,
        splitDigits_of_isDigit hdigits, if_neg hne]

theorem IsExponent.head {text : List Char} {exponent : Int} (h : IsExponent text exponent) :
    ∀ c ∈ text.head?, ¬c.isDigit ∧ c ≠ '.' := by
  rcases h with ⟨rfl, -⟩ | ⟨mark, sign, negative, digits, rfl, rfl | rfl, -⟩
  · simp
  · rintro c ⟨⟩
    decide
  · rintro c ⟨⟩
    decide

theorem assembled_eq_some_iff {whole fraction tail : List Char} {d : Decimal} :
    (if whole.isEmpty && fraction.isEmpty then none
      else match splitExponent tail with
      | some (exponent, []) =>
          some (⟨Nat.ofDigitChars 10 (whole ++ fraction) 0, exponent - fraction.length⟩ : Decimal)
      | _ => none) = some d ↔
    whole ++ fraction ≠ [] ∧ ∃ exponent, IsExponent tail exponent ∧
      d = ⟨Nat.ofDigitChars 10 (whole ++ fraction) 0, exponent - fraction.length⟩ := by
  have hempty : (whole.isEmpty && fraction.isEmpty) = true ↔ ¬whole ++ fraction ≠ [] := by
    simp [List.isEmpty_iff]
  by_cases hne : whole ++ fraction ≠ []
  · rw [if_neg fun h => hempty.mp h hne, and_iff_right hne]
    constructor
    · intro h
      split at h
      · rename_i exponent hread
        exact ⟨exponent, splitExponent_eq_iff.mp hread, (Option.some.inj h).symm⟩
      · cases h
    · rintro ⟨exponent, hexponent, rfl⟩
      rw [splitExponent_eq_iff.mpr hexponent]
  · rw [if_pos (hempty.mpr hne)]
    exact iff_of_false nofun fun h => hne h.1

theorem readDecimal?_eq_some_iff {text : List Char} {d : Decimal} :
    readDecimal? text = some d ↔ IsDecimal text d := by
  constructor
  · intro h
    cases hsplit : splitDigits text with
    | mk whole rest =>
        obtain ⟨rfl, hwhole, -⟩ := splitDigits_eq_iff.mp hsplit
        simp only [readDecimal?, hsplit] at h
        split at h
        · rename_i rest
          obtain ⟨hne, exponent, hexponent, rfl⟩ := assembled_eq_some_iff.mp h
          obtain ⟨hrest, hfraction, -⟩ := splitDigits_eq_iff.mp (rfl : splitDigits rest = (_, _))
          refine ⟨whole, _, _, exponent, .inr ?_, hne, ?_, hexponent, rfl⟩
          · exact congrArg (whole ++ '.' :: ·) hrest
          · exact List.forall_mem_append.mpr ⟨hwhole, hfraction⟩
        · obtain ⟨hne, exponent, hexponent, rfl⟩ := assembled_eq_some_iff.mp h
          exact ⟨whole, [], rest, exponent, .inl ⟨rfl, rfl⟩, hne,
            by rwa [List.append_nil], hexponent, rfl⟩
  · rintro ⟨whole, fraction, tail, exponent, htext, hne, hdigits, hexponent, rfl⟩
    obtain ⟨hwhole, hfraction⟩ := List.forall_mem_append.mp hdigits
    have hassembled := assembled_eq_some_iff.mpr ⟨hne, exponent, hexponent, rfl⟩
    rcases htext with ⟨rfl, rfl⟩ | rfl
    · have hsplit := splitDigits_append hwhole fun c hc => (hexponent.head c hc).1
      -- Without this the reader's case split on a point does not reduce.
      have hpoint : ∀ rest, tail ≠ '.' :: rest := by
        rintro rest rfl
        exact (hexponent.head '.' rfl).2 rfl
      simp only [readDecimal?, hsplit]
      exact hassembled
    · have hsplit : splitDigits (whole ++ '.' :: (fraction ++ tail)) = _ :=
        splitDigits_append hwhole (by simp)
      have hsplit' := splitDigits_append hfraction fun c hc => (hexponent.head c hc).1
      simp only [readDecimal?, hsplit, hsplit']
      exact hassembled

theorem IsDecimal.digits {text : List Char} {d : Decimal} (h : IsDecimal text d) :
    (∀ c ∈ text.head?, c.isDigit ∨ c = '.') ∧ ∃ c ∈ text, c.isDigit := by
  obtain ⟨whole, fraction, tail, exponent, htext, hne, hdigits, -, -⟩ := h
  obtain ⟨c, hc⟩ := List.exists_mem_of_ne_nil _ hne
  refine ⟨?_, c, ?_, hdigits c hc⟩
  · cases whole with
    | nil =>
        rcases htext with ⟨-, rfl⟩ | rfl
        · exact absurd rfl hne
        · rintro c ⟨⟩
          exact .inr rfl
    | cons first whole =>
        have hfirst : text.head? = some first := by rcases htext with ⟨rfl, -⟩ | rfl <;> rfl
        rintro c hc
        obtain rfl : first = c := Option.some.inj (hfirst.symm.trans hc)
        exact .inl (hdigits first (by simp))
  · rcases htext with ⟨rfl, rfl⟩ | rfl
    · rw [List.append_nil] at hc
      exact List.mem_append_left _ hc
    · rcases List.mem_append.mp hc with hc | hc
      · exact List.mem_append_left _ hc
      · exact List.mem_append_right _ (List.mem_cons_of_mem _ (List.mem_append_left _ hc))

/-- Names are written in letters, which come after digits, signs and points. -/
theorem le_toNat_of_named {text : List Char} {pattern : Nat}
    (h : (text.map Char.toLower, pattern) ∈ namedPatterns) : ∀ c ∈ text, 0x41 ≤ c.toNat := by
  have hnames : (namedPatterns.all fun entry => entry.1.all (0x41 ≤ ·.toNat)) = true := by decide
  intro c hc
  by_contra hsmall
  have hsame : c.toLower = c := dif_neg fun hupper => hsmall hupper.1
  have hlower := List.all_eq_true.mp (List.all_eq_true.mp hnames _ h) _
    (List.mem_map_of_mem (f := Char.toLower) hc)
  rw [hsame, decide_eq_true_iff] at hlower
  exact hsmall hlower

theorem readName_eq_ok_iff {text : List Char} {negative : Bool} {x : Float} :
    (if String.ofList text = "inf" ∨ String.ofList text = "infinity" then
        .ok (Double.ofPattern negative Double.infinity)
      else if String.ofList text = "nan" then
        .ok (Double.ofPattern negative (Double.infinity + Nat.pow 2 51))
      else .error "invalid float literal" : Except String Float) = .ok x ↔
    ∃ pattern, (text, pattern) ∈ namedPatterns ∧ x = Double.ofPattern negative pattern := by
  have hname (name : String) : String.ofList text = name ↔ text = name.toList := by
    rw [← String.toList_inj, String.toList_ofList]
  simp only [hname, namedPatterns, List.mem_cons, List.not_mem_nil, or_false, Prod.mk.injEq]
  constructor
  · intro h
    split at h
    · rename_i hinfinity
      refine ⟨Double.infinity, ?_, (Except.ok.inj h).symm⟩
      exact hinfinity.imp (⟨·, rfl⟩) (.inl ⟨·, rfl⟩)
    · split at h
      · rename_i hnan
        exact ⟨_, .inr (.inr ⟨hnan, rfl⟩), (Except.ok.inj h).symm⟩
      · cases h
  · rintro ⟨pattern, ⟨rfl, rfl⟩ | ⟨rfl, rfl⟩ | ⟨rfl, rfl⟩, rfl⟩
    · exact if_pos (.inl rfl)
    · exact if_pos (.inr rfl)
    · rw [if_neg (by decide), if_pos rfl]

theorem readDouble_eq_ok_iff {text : List Char} {x : Float} :
    readDouble text = .ok x ↔ IsDouble text x := by
  constructor
  · intro h
    obtain ⟨sign, hsign, htext⟩ := exists_sign text
    refine ⟨sign, _, _, hsign, htext, ?_⟩
    simp only [readDouble] at h
    split at h
    · rename_i d hd
      exact .inl ⟨d, readDecimal?_eq_some_iff.mp hd, (Except.ok.inj h).symm⟩
    · exact .inr (readName_eq_ok_iff.mp h)
  · rintro ⟨sign, negative, unsigned, hsign, rfl, ⟨d, hd, rfl⟩ | ⟨pattern, hname, rfl⟩⟩
    · have hhead : ∀ c ∈ unsigned.head?, c ≠ '+' ∧ c ≠ '-' := by
        intro c hc
        rcases hd.digits.1 c hc with hc | rfl
        · exact ne_sign_of_isDigit hc
        · decide
      simp only [readDouble, splitSign_append hsign hhead, readDecimal?_eq_some_iff.mpr hd]
    · have hletters := le_toNat_of_named hname
      have hhead : ∀ c ∈ unsigned.head?, c ≠ '+' ∧ c ≠ '-' := by
        intro c hc
        have hc := hletters c (List.mem_of_head? hc)
        constructor <;> rintro rfl <;> exact absurd hc (by decide)
      have hnone : readDecimal? unsigned = none := by
        rw [Option.eq_none_iff_forall_ne_some]
        intro d hd
        obtain ⟨-, c, hc, hdigit⟩ := (readDecimal?_eq_some_iff.mp hd).digits
        have hle : c.toNat ≤ 0x39 := (Char.isDigit_iff_toNat.mp hdigit).2
        exact absurd (hletters c hc) (by omega)
      simp only [readDouble, splitSign_append hsign hhead, hnone]
      exact readName_eq_ok_iff.mpr ⟨pattern, hname, rfl⟩

end Honeypot
