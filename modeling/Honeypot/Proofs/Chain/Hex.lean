import Honeypot.Chain.Address
import Honeypot.Chain.Wei
import Honeypot.Proofs.Traverse
import Mathlib.Algebra.Group.Nat.Defs

namespace Honeypot

open Json

theorem hexValue?_digitChar : ∀ digit < 16, hexValue? digit.digitChar = some digit := by
  decide

theorem hexValue?_hexDigit (n : Nat) : hexValue? (hexDigit n) = some (n % 16) :=
  hexValue?_digitChar (n % 16) (Nat.mod_lt n (by decide))

namespace Hex

theorem length_ofWidth (width n : Nat) : (ofWidth width n).length = width := by
  induction width with
  | zero => rfl
  | succ width ih => rw [ofWidth, List.length_cons, ih]

/-- Digits that are read after others move the number so far by their width. -/
theorem foldlM_ofWidth (width n start : Nat) :
    (ofWidth width n).foldlM (fun n c => (hexValue? c).map (16 * n + ·)) start =
      some (start * 16 ^ width + n % 16 ^ width) := by
  induction width generalizing start with
  | zero =>
      rw [ofWidth, List.foldlM_nil, Nat.pow_zero, Nat.mul_one, Nat.mod_one, Nat.add_zero]
      rfl
  | succ width ih =>
      have hdigit : (hexValue? (hexDigit (n / 16 ^ width))).map (16 * start + ·) =
          some (16 * start + n / 16 ^ width % 16) := by
        rw [hexValue?_hexDigit, Option.map_some]
      have hvalue : (16 * start + n / 16 ^ width % 16) * 16 ^ width + n % 16 ^ width =
          start * 16 ^ (width + 1) + n % 16 ^ (width + 1) := by
        rw [Nat.mod_pow_succ, Nat.add_mul, Nat.pow_succ]
        ac_rfl
      rw [ofWidth, foldlM_cons_of_eq_some hdigit, ih, hvalue]

theorem hexValue?_toUpper {width n : Nat} {c : Char} (h : c ∈ ofWidth width n) :
    hexValue? c.toUpper = hexValue? c := by
  have hdigit : ∀ digit < 16, hexValue? digit.digitChar.toUpper = hexValue? digit.digitChar := by
    decide
  induction width with
  | zero => cases h
  | succ width ih =>
      rcases List.mem_cons.mp h with rfl | h
      · exact hdigit _ (Nat.mod_lt _ (by decide))
      · exact ih h

/-- What digits spell does not depend on their case. -/
theorem toNat?_zipWith {α : Type} {digits : List Char} {marks : List α} {raise : Char → α → Char}
    (hlength : digits.length ≤ marks.length)
    (h : ∀ c ∈ digits, ∀ mark, hexValue? (raise c mark) = hexValue? c) :
    toNat? (List.zipWith raise digits marks) = toNat? digits := by
  rw [toNat?, toNat?]
  generalize 0 = start
  induction digits generalizing marks start with
  | nil => rfl
  | cons c digits ih =>
      obtain ⟨hc, hdigits⟩ := List.forall_mem_cons.mp h
      cases marks with
      | nil => simp at hlength
      | cons mark marks =>
          rw [List.zipWith_cons_cons, List.foldlM_cons, List.foldlM_cons, hc mark]
          have hrest := fun start => ih (Nat.le_of_succ_le_succ hlength) hdigits start
          simp only [hrest]

theorem toNat?_ofWidth {width n : Nat} (h : n < 16 ^ width) :
    toNat? (ofWidth width n) = some n := by
  rw [toNat?, foldlM_ofWidth, Nat.zero_mul, Nat.zero_add, Nat.mod_eq_of_lt h]

theorem field?_writeField {bytes n : Nat} (h : n < 16 ^ (2 * bytes)) :
    field? bytes (.text (some (writeField bytes n))) = some n := by
  have hdigits : dropPrefix (writeField bytes n).toList = ofWidth (2 * bytes) n := by
    rw [writeField, String.toList_ofList, dropPrefix]
  simp only [field?, hdigits, length_ofWidth, if_true, toNat?_ofWidth h]

end Hex

theorem Address.ofTree?_write (a : Address) : ofTree? (.text (some a.write)) = some a := by
  have hsize : a.bits.toNat < 16 ^ (2 * 20) := a.bits.isLt
  rw [ofTree?, write, Hex.field?_writeField hsize, Option.map_some, BitVec.ofNat_toNat,
    BitVec.setWidth_eq]

theorem Keccak.length_hashText (text : String) : (hashText text).length = 32 := by
  have hlane (lane : UInt64) : (bytesOfLane lane).length = 8 := by
    rw [bytesOfLane, List.length_map, List.length_range]
  simp [hashText, hash, List.length_flatMap, hlane, List.map_const']

theorem Address.ofTree?_checksummed (a : Address) :
    ofTree? (.text (some a.checksummed)) = some a := by
  have hsize : a.bits.toNat < 16 ^ 40 := a.bits.isLt
  have hraise : ∀ c ∈ Hex.ofWidth 40 a.bits.toNat, ∀ mark,
      hexValue? (if 8 ≤ mark then c.toUpper else c) = hexValue? c := by
    intro c hc mark
    split
    · exact Hex.hexValue?_toUpper hc
    · rfl
  have hmarks : ((Keccak.hashText (String.ofList (Hex.ofWidth 40 a.bits.toNat))).flatMap
      fun byte => [byte.toNat / 16, byte.toNat % 16]).length = 64 := by
    simp [List.length_flatMap, Keccak.length_hashText, List.map_const']
  have hlength : (Hex.ofWidth 40 a.bits.toNat).length = 40 := Hex.length_ofWidth 40 _
  rw [ofTree?, Hex.field?, checksummed]
  simp only [String.toList_ofList, Hex.dropPrefix, List.length_zipWith, hmarks, hlength]
  rw [if_pos (by decide), Hex.toNat?_zipWith (by omega) hraise, Hex.toNat?_ofWidth hsize,
    Option.map_some, BitVec.ofNat_toNat, BitVec.setWidth_eq]

theorem TxHash.ofTree?_write (h : TxHash) : ofTree? (.text (some h.write)) = some h := by
  have hsize : h.bits.toNat < 16 ^ (2 * 32) := h.bits.isLt
  rw [ofTree?, write, Hex.field?_writeField hsize, Option.map_some, BitVec.ofNat_toNat,
    BitVec.setWidth_eq]

namespace Wei

theorem digits?_append_digitChar {text : List Char} {n digit : Nat} (h : digits? 16 text = some n)
    (hdigit : digit < 16) : digits? 16 (text ++ [digit.digitChar]) = some (16 * n + digit) := by
  rw [digits?, foldlM_append_of_eq_some h]
  simp [hexValue?_digitChar digit hdigit, hdigit]

theorem digits?_toDigits (n : Nat) : digits? 16 (Nat.toDigits 16 n) = some n := by
  induction n using Nat.strongRecOn with
  | ind n ih =>
      by_cases hsmall : n < 16
      · have hnone : digits? 16 [] = some 0 := rfl
        rw [Nat.toDigits_of_lt_base hsmall]
        simpa using digits?_append_digitChar hnone hsmall
      · rw [Nat.toDigits_of_base_le (by decide) (by omega),
          digits?_append_digitChar (ih (n / 16) (by omega)) (Nat.mod_lt n (by decide)),
          Nat.div_add_mod]

/-- A text consists of the decimal digits of an amount. -/
def IsAmount (text : String) (w : Wei) : Prop :=
  text ≠ "" ∧ (∀ c ∈ text.toList, c.isDigit = true) ∧ Nat.ofDigitChars 10 text.toList 0 = w.toNat

theorem isAmount_decimal (w : Wei) : IsAmount w.decimal w := by
  rw [IsAmount, decimal, String.toList_ofList]
  refine ⟨?_, fun c => Nat.isDigit_of_mem_toDigits (by decide) (by decide),
    Nat.ofDigitChars_ten_toDigits⟩
  rw [ne_eq, ← String.toList_inj, String.toList_ofList]
  exact Nat.toDigits_ne_nil

theorem ofNat?_toNat (w : Wei) : ofNat? w.toNat = some w := by
  have hsize : w.toNat < Nat.pow 2 256 := w.bits.isLt
  rw [ofNat?, if_pos hsize, toNat, BitVec.ofNat_toNat, BitVec.setWidth_eq]

theorem ofTree?_write (w : Wei) : ofTree? (.text (some w.write)) = some w := by
  have hbase : splitBase w.write.toList = (16, Nat.toDigits 16 w.toNat) := by
    rw [write, String.toList_ofList]
    rfl
  rw [ofTree?, ofText?, hbase]
  simp only [digits?_toDigits, Option.bind_some, ofNat?_toNat]

end Wei

end Honeypot
