import Honeypot.Bytecode.Code

namespace Honeypot

open Json (hexValue?)

namespace Hex

/-- A character is the digit for a number below sixteen, in either case. -/
def IsDigitOf (n : Nat) (c : Char) : Prop :=
  "0123456789abcdef".toList[n]? = some c ∨ "0123456789ABCDEF".toList[n]? = some c

instance (n : Nat) (c : Char) : Decidable (IsDigitOf n c) := by
  unfold IsDigitOf
  infer_instance

/-- Each byte is written in two digits, the high one first. -/
inductive Written : List UInt8 → List Char → Prop
  | nil : Written [] []
  | cons {byte : UInt8} {high low : Char} {bytes : List UInt8} {digits : List Char}
      (hhigh : IsDigitOf (byte.toNat / 16) high) (hlow : IsDigitOf (byte.toNat % 16) low)
      (h : Written bytes digits) : Written (byte :: bytes) (high :: low :: digits)

/-- A text is a spelling of some bytes, with or without a prefix. -/
def IsSpelling (text : String) (bytes : List UInt8) : Prop :=
  ∃ mark ∈ ["", "0x", "0X"], ∃ digits, text = mark ++ digits ∧ Written bytes digits.toList

end Hex

namespace Code

theorem toNat_le_of_hexValue? {c : Char} (h : (hexValue? c).isSome) : c.toNat ≤ 0x7F := by
  have hle (d : Char) (hd : d.toNat ≤ 0x7F) (hcd : c ≤ d) : c.toNat ≤ 0x7F :=
    Nat.le_trans hcd hd
  unfold hexValue? at h
  split at h
  · rename_i hc
    exact hle '9' (by decide) hc.2
  · split at h
    · rename_i hc
      exact hle 'f' (by decide) hc.2
    · split at h
      · rename_i hc
        exact hle 'F' (by decide) hc.2
      · cases h

theorem utf8EncodeChar_of_le {c : Char} (h : c.toNat ≤ 0x7F) :
    String.utf8EncodeChar c = [UInt8.ofNat c.toNat] := if_pos h

theorem digit?_of_le {c : Char} (h : c.toNat ≤ 0x7F) :
    digit? (UInt8.ofNat c.toNat) = hexValue? c := by
  have hbyte : (UInt8.ofNat c.toNat).toNat = c.toNat := by
    rw [UInt8.toNat_ofNat']
    omega
  rw [digit?, hbyte, Char.ofNat_toNat]

theorem digit?_of_large {byte : UInt8} (h : 0x80 ≤ byte.toNat) : digit? byte = none := by
  have hnone : ∀ n < 256, 0x80 ≤ n → hexValue? (Char.ofNat n) = none := by decide +kernel
  exact hnone byte.toNat byte.toNat_lt h

theorem exists_not_digit {c : Char} (h : 0x7F < c.toNat) :
    ∃ byte ∈ String.utf8EncodeChar c, digit? byte = none := by
  have hnone (n : Nat) (hlow : 0x80 ≤ n) (hhigh : n < 0x100) : digit? (UInt8.ofNat n) = none := by
    apply digit?_of_large
    rw [UInt8.toNat_ofNat']
    omega
  have hc : ¬c.val.toNat ≤ 0x7F := Nat.not_le.mpr h
  simp only [String.utf8EncodeChar, if_neg hc]
  split
  · exact ⟨_, List.mem_cons_self, hnone _ (by omega) (by omega)⟩
  · split
    · exact ⟨_, List.mem_cons_self, hnone _ (by omega) (by omega)⟩
    · exact ⟨_, List.mem_cons_self, hnone _ (by omega) (by omega)⟩

theorem isSome_digit?_iff (chars : List Char) :
    (∀ byte ∈ chars.flatMap String.utf8EncodeChar, (digit? byte).isSome) ↔
      ∀ c ∈ chars, (hexValue? c).isSome := by
  constructor
  · intro h c hc
    have hbytes : ∀ byte ∈ String.utf8EncodeChar c, (digit? byte).isSome := fun byte hbyte =>
      h byte (List.mem_flatMap.mpr ⟨c, hc, hbyte⟩)
    rcases Nat.lt_or_ge 0x7F c.toNat with hlarge | hsmall
    · obtain ⟨byte, hbyte, hnone⟩ := exists_not_digit hlarge
      have hsome := hbytes byte hbyte
      rw [hnone] at hsome
      cases hsome
    · rw [utf8EncodeChar_of_le hsmall] at hbytes
      rw [← digit?_of_le hsmall]
      exact hbytes _ List.mem_cons_self
  · intro h byte hbyte
    obtain ⟨c, hc, hbyte⟩ := List.mem_flatMap.mp hbyte
    have hsmall := toNat_le_of_hexValue? (h c hc)
    rw [utf8EncodeChar_of_le hsmall, List.mem_singleton] at hbyte
    rw [hbyte, digit?_of_le hsmall]
    exact h c hc

theorem flatMap_eq_map {chars : List Char} (h : ∀ c ∈ chars, (hexValue? c).isSome) :
    chars.flatMap String.utf8EncodeChar = chars.map fun c => UInt8.ofNat c.toNat := by
  induction chars with
  | nil => rfl
  | cons c rest ih =>
      obtain ⟨hc, hrest⟩ := List.forall_mem_cons.mp h
      rw [List.flatMap_cons, ih hrest, utf8EncodeChar_of_le (toNat_le_of_hexValue? hc),
        List.map_cons, List.singleton_append]

theorem firstFault?_eq_none_iff (bytes : List UInt8) :
    firstFault? bytes = none ↔ ∀ byte ∈ bytes, (digit? byte).isSome := by
  rw [firstFault?, Option.map_eq_none_iff, List.find?_eq_none]
  constructor
  · intro h byte hbyte
    obtain ⟨i, hi, rfl⟩ := List.mem_iff_getElem.mp hbyte
    have hmem : (bytes[i], i) ∈ bytes.zipIdx := by
      rw [List.mem_zipIdx_iff_getElem?]
      exact List.getElem?_eq_getElem hi
    simpa [Option.isSome_iff_ne_none] using h _ hmem
  · intro h entry hentry
    have hbyte := List.fst_mem_of_mem_zipIdx hentry
    simpa [Option.isSome_iff_ne_none] using h _ hbyte

end Code

namespace Hex

theorem hexValue?_eq_some_iff {c : Char} {n : Nat} : hexValue? c = some n ↔ IsDigitOf n c := by
  constructor
  · have hall : ∀ k < 128, ∀ n ∈ hexValue? (Char.ofNat k),
        "0123456789abcdef".toList[n]? = some (Char.ofNat k) ∨
          "0123456789ABCDEF".toList[n]? = some (Char.ofNat k) := by decide +kernel
    intro h
    have hsmall : c.toNat ≤ 0x7F := Code.toNat_le_of_hexValue? (by rw [h]; rfl)
    have hc := hall c.toNat (by omega)
    rw [Char.ofNat_toNat] at hc
    exact hc n h
  · have hlower :
        ∀ entry ∈ "0123456789abcdef".toList.zipIdx, hexValue? entry.1 = some entry.2 := by
      decide +kernel
    have hupper :
        ∀ entry ∈ "0123456789ABCDEF".toList.zipIdx, hexValue? entry.1 = some entry.2 := by
      decide +kernel
    rintro (h | h)
    · exact hlower (c, n) (List.mem_zipIdx_iff_getElem?.mpr h)
    · exact hupper (c, n) (List.mem_zipIdx_iff_getElem?.mpr h)

theorem lt_of_hexValue? {c : Char} {n : Nat} (h : hexValue? c = some n) : n < 16 := by
  rcases hexValue?_eq_some_iff.mp h with h | h
  · exact (List.getElem?_eq_some_iff.mp h).1
  · exact (List.getElem?_eq_some_iff.mp h).1

namespace Written

theorem isSome_hexValue? {bytes : List UInt8} {digits : List Char} (h : Written bytes digits) :
    ∀ c ∈ digits, (hexValue? c).isSome := by
  have hdigit {n : Nat} {c : Char} (hc : IsDigitOf n c) : (hexValue? c).isSome := by
    rw [hexValue?_eq_some_iff.mpr hc]
    rfl
  induction h with
  | nil => simp
  | cons hhigh hlow _ ih =>
      exact List.forall_mem_cons.mpr ⟨hdigit hhigh, List.forall_mem_cons.mpr ⟨hdigit hlow, ih⟩⟩

theorem length_digits {bytes : List UInt8} {digits : List Char} (h : Written bytes digits) :
    digits.length % 2 = 0 := by
  induction h with
  | nil => rfl
  | cons _ _ _ ih =>
      rw [List.length_cons, List.length_cons]
      omega

theorem pairUp_digits {bytes : List UInt8} {digits : List Char} (h : Written bytes digits)
    (paired : List UInt8) :
    Code.pairUp paired (digits.map fun c => UInt8.ofNat c.toNat) = paired.reverse ++ bytes := by
  have hvalue {n : Nat} {c : Char} (hc : IsDigitOf n c) :
      (Code.digit? (UInt8.ofNat c.toNat)).getD 0 = n := by
    have hn := hexValue?_eq_some_iff.mpr hc
    rw [Code.digit?_of_le (Code.toNat_le_of_hexValue? (by rw [hn]; rfl)), hn, Option.getD_some]
  induction h generalizing paired with
  | nil => simp [Code.pairUp]
  | cons hhigh hlow _ ih =>
      rw [List.map_cons, List.map_cons, Code.pairUp, ih, Code.pair, hvalue hhigh, hvalue hlow,
        Nat.div_add_mod, UInt8.ofNat_toNat, List.reverse_cons, List.append_assoc,
        List.singleton_append]

theorem exists_of_digits : (digits : List Char) → (∀ c ∈ digits, (hexValue? c).isSome) →
    digits.length % 2 = 0 → ∃ bytes, Written bytes digits
  | [], _, _ => ⟨[], .nil⟩
  | [_], _, h => by simp at h
  | a :: b :: digits, h, heven => by
      obtain ⟨ha, h⟩ := List.forall_mem_cons.mp h
      obtain ⟨hb, h⟩ := List.forall_mem_cons.mp h
      rw [List.length_cons, List.length_cons] at heven
      obtain ⟨bytes, hbytes⟩ := exists_of_digits digits h (by omega)
      obtain ⟨high, hhigh⟩ := Option.isSome_iff_exists.mp ha
      obtain ⟨low, hlow⟩ := Option.isSome_iff_exists.mp hb
      have hhigh' := lt_of_hexValue? hhigh
      have hlow' := lt_of_hexValue? hlow
      have hbyte : (UInt8.ofNat (16 * high + low)).toNat = 16 * high + low := by
        rw [UInt8.toNat_ofNat']
        omega
      refine ⟨UInt8.ofNat (16 * high + low) :: bytes, .cons ?_ ?_ hbytes⟩
      · rw [hbyte, show (16 * high + low) / 16 = high by omega]
        exact hexValue?_eq_some_iff.mp hhigh
      · rw [hbyte, show (16 * high + low) % 16 = low by omega]
        exact hexValue?_eq_some_iff.mp hlow

end Written

theorem dropPrefix_of_written {bytes : List UInt8} {digits : List Char}
    (h : Written bytes digits) : dropPrefix digits = digits := by
  unfold dropPrefix
  split
  · exact absurd (h.isSome_hexValue? 'x' (by simp)) (by decide)
  · exact absurd (h.isSome_hexValue? 'X' (by simp)) (by decide)
  · rfl

theorem isSpelling_iff {text : String} {bytes : List UInt8} :
    IsSpelling text bytes ↔ Written bytes (dropPrefix text.toList) := by
  constructor
  · rintro ⟨mark, hmark, digits, rfl, h⟩
    rw [String.toList_append]
    simp only [List.mem_cons, List.not_mem_nil, or_false] at hmark
    rcases hmark with rfl | rfl | rfl
    · rwa [String.toList_empty, List.nil_append, dropPrefix_of_written h]
    · exact h
    · exact h
  · have hspelling (mark : String) {digits : List Char} (hmark : mark ∈ ["", "0x", "0X"])
        (htext : text.toList = mark.toList ++ digits) (h : Written bytes digits) :
        IsSpelling text bytes := by
      refine ⟨mark, hmark, String.ofList digits, ?_, by rwa [String.toList_ofList]⟩
      rw [← String.toList_inj, String.toList_append, String.toList_ofList, htext]
    intro h
    unfold dropPrefix at h
    split at h
    · rename_i rest htext
      exact hspelling "0x" (by simp) htext h
    · rename_i rest htext
      exact hspelling "0X" (by simp) htext h
    · exact hspelling "" (by simp) (by simp) h

end Hex

/-- A text can be decoded if and only if it spells bytes, and these are the bytes of the code. -/
theorem Code.decode_eq_ok_iff {text : String} {code : Code} :
    decode text = .ok code ↔ ∃ bytes, Hex.IsSpelling text bytes ∧ code = ofBytes bytes := by
  simp only [Hex.isSpelling_iff]
  generalize hchars : Hex.dropPrefix text.toList = chars
  have hbytes : digitBytes text = chars.flatMap String.utf8EncodeChar := by
    rw [digitBytes, hchars]
  constructor
  · intro h
    simp only [decode] at h
    split at h
    · cases h
    · rename_i hlength
      split at h
      · cases h
      · rename_i hfault
        have hdigits := (isSome_digit?_iff chars).mp
          (hbytes ▸ (firstFault?_eq_none_iff _).mp hfault)
        have hmap := flatMap_eq_map hdigits
        rw [hbytes, hmap] at h hlength
        rw [List.length_map] at hlength
        obtain ⟨bytes, hwritten⟩ := Hex.Written.exists_of_digits chars hdigits (by omega)
        rw [hwritten.pairUp_digits] at h
        exact ⟨bytes, hwritten, (Except.ok.inj h).symm⟩
  · rintro ⟨bytes, hwritten, rfl⟩
    have hdigits := hwritten.isSome_hexValue?
    have hmap := flatMap_eq_map hdigits
    have hfault : firstFault? (digitBytes text) = none := by
      rw [firstFault?_eq_none_iff, hbytes]
      exact (isSome_digit?_iff chars).mpr hdigits
    have hlength : ¬(digitBytes text).length % 2 = 1 := by
      rw [hbytes, hmap, List.length_map, hwritten.length_digits]
      decide
    simp only [decode, hfault, if_neg hlength]
    rw [hbytes, hmap, hwritten.pairUp_digits]
    rfl

end Honeypot
