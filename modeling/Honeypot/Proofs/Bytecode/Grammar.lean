import Honeypot.Proofs.Bytecode.Spelling
import Mathlib.Data.List.Basic

/-!
Which texts can be decoded, and what is reported of the others.

A text is looked at as the bytes of its encoding in UTF-8, so that a character outside of the
ASCII range counts as several bytes, none of which is a digit.
-/

namespace Honeypot

namespace Hex

/-- What remains of a text when one prefix is taken away, or all of it if it has none. -/
def Bare (text digits : String) : Prop :=
  text = "0x" ++ digits ∨ text = "0X" ++ digits ∨
    text = digits ∧ ∀ rest, text ≠ "0x" ++ rest ∧ text ≠ "0X" ++ rest

/-- A byte that is a hexadecimal digit of either case in ASCII. -/
def IsDigit (byte : UInt8) : Prop :=
  0x30 ≤ byte ∧ byte ≤ 0x39 ∨ 0x41 ≤ byte ∧ byte ≤ 0x46 ∨ 0x61 ≤ byte ∧ byte ≤ 0x66

instance (byte : UInt8) : Decidable (IsDigit byte) := by
  unfold IsDigit
  infer_instance

def encoded (text : String) : List UInt8 := text.toUTF8.data.toList

/-- The first byte that is no digit, with the number of bytes before it. -/
structure FirstFault (bytes : List UInt8) (offset : Nat) (byte : UInt8) : Prop where
  found : bytes[offset]? = some byte
  not_isDigit : ¬IsDigit byte
  isDigit_before : ∀ other ∈ bytes.take offset, IsDigit other

namespace FirstFault

variable {bytes : List UInt8} {offset offset' : Nat} {byte byte' : UInt8}

theorem not_forall_isDigit (h : FirstFault bytes offset byte) : ¬∀ byte ∈ bytes, IsDigit byte :=
  fun hdigits => h.not_isDigit (hdigits byte (List.mem_of_getElem? h.found))

theorem le (h : FirstFault bytes offset byte) (h' : FirstFault bytes offset' byte') :
    offset ≤ offset' := by
  by_contra hlt
  obtain ⟨hlength, hfound⟩ := List.getElem?_eq_some_iff.mp h'.found
  exact h'.not_isDigit
    (h.isDigit_before byte' (List.mem_take_iff_getElem.mpr ⟨offset', by omega, hfound⟩))

theorem unique (h : FirstFault bytes offset byte) (h' : FirstFault bytes offset' byte') :
    offset = offset' ∧ byte = byte' := by
  obtain rfl := Nat.le_antisymm (h.le h') (h'.le h)
  exact ⟨rfl, Option.some.inj (h.found.symm.trans h'.found)⟩

end FirstFault

theorem bare_dropPrefix (text : String) : Bare text (String.ofList (dropPrefix text.toList)) := by
  have hmark (mark : String) (rest : List Char) (h : text.toList = mark.toList ++ rest) :
      text = mark ++ String.ofList rest := by
    rw [← String.toList_inj, String.toList_append, String.toList_ofList, h]
  unfold dropPrefix
  split
  · rename_i rest h
    exact .inl (hmark "0x" rest h)
  · rename_i rest h
    exact .inr (.inl (hmark "0X" rest h))
  · rename_i hx hX
    refine .inr (.inr ⟨String.ofList_toList.symm, fun rest => ⟨?_, ?_⟩⟩)
    · rintro rfl
      exact hx rest.toList String.toList_append
    · rintro rfl
      exact hX rest.toList String.toList_append

end Hex

namespace Code

open Hex (IsDigit)

theorem digitBytes_eq (text : String) :
    digitBytes text = Hex.encoded (String.ofList (Hex.dropPrefix text.toList)) := by
  rw [Hex.encoded, String.toUTF8, String.toByteArray_ofList, List.utf8Encode,
    List.data_toByteArray]
  rfl

theorem length_encoded (text : String) : (Hex.encoded text).length = text.utf8ByteSize := rfl

theorem isSome_digit? {byte : UInt8} : (digit? byte).isSome ↔ IsDigit byte := by
  -- The reader of digits compares characters, so all bytes are gone through.
  have hall : ∀ n < 256, (digit? (UInt8.ofNat n)).isSome ↔ IsDigit (UInt8.ofNat n) := by
    decide +kernel
  rw [← UInt8.ofNat_toNat (x := byte)]
  exact hall byte.toNat byte.toNat_lt

theorem firstFault?_eq_some_iff {bytes : List UInt8} {fault : CodeError} :
    firstFault? bytes = some fault ↔ ∃ offset byte, Hex.FirstFault bytes offset byte ∧
      fault = .invalidHex offset (Char.ofNat byte.toNat) := by
  simp only [firstFault?, Option.map_eq_some_iff, List.find?_eq_some_iff_getElem,
    List.length_zipIdx, List.getElem_zipIdx, Nat.zero_add]
  constructor
  · rintro ⟨_, ⟨hfault, offset, h, rfl, hbefore⟩, rfl⟩
    refine ⟨offset, bytes[offset], ⟨List.getElem?_eq_getElem h, ?_, ?_⟩, rfl⟩
    · rw [← isSome_digit?]
      simpa using hfault
    · intro other hother
      obtain ⟨i, hi, rfl⟩ := List.mem_take_iff_getElem.mp hother
      rw [← isSome_digit?]
      simpa using hbefore i (by omega)
  · rintro ⟨offset, byte, hfirst, rfl⟩
    obtain ⟨h, rfl⟩ := List.getElem?_eq_some_iff.mp hfirst.found
    refine ⟨_, ⟨?_, offset, h, rfl, ?_⟩, rfl⟩
    · have hfault := hfirst.not_isDigit
      rw [← isSome_digit?] at hfault
      simpa using hfault
    · intro i hi
      have hdigit :=
        hfirst.isDigit_before bytes[i] (List.mem_take_iff_getElem.mpr ⟨i, by omega, rfl⟩)
      rw [← isSome_digit?] at hdigit
      simpa using hdigit

theorem firstFault?_eq_none_iff_isDigit (bytes : List UInt8) :
    firstFault? bytes = none ↔ ∀ byte ∈ bytes, IsDigit byte := by
  rw [firstFault?_eq_none_iff]
  exact forall₂_congr fun _ _ => isSome_digit?

/-- What a text is decoded to: exactly one of three things, by the bytes after its prefix. -/
theorem decode_cases (text : String) :
    ((digitBytes text).length % 2 = 1 ∧
      decode text = .error (.oddLength (digitBytes text).length)) ∨
    ((digitBytes text).length % 2 = 0 ∧ ∃ offset byte,
      Hex.FirstFault (digitBytes text) offset byte ∧
        decode text = .error (.invalidHex offset (Char.ofNat byte.toNat))) ∨
    ((digitBytes text).length % 2 = 0 ∧ (∀ byte ∈ digitBytes text, IsDigit byte) ∧
      ∃ code, decode text = .ok code) := by
  unfold decode
  dsimp only
  split
  · rename_i hodd
    exact .inl ⟨hodd, rfl⟩
  · rename_i hodd
    have heven : (digitBytes text).length % 2 = 0 := by omega
    cases hfault : firstFault? (digitBytes text) with
    | some fault =>
        obtain ⟨offset, byte, hfirst, rfl⟩ := firstFault?_eq_some_iff.mp hfault
        exact .inr (.inl ⟨heven, offset, byte, hfirst, rfl⟩)
    | none =>
        have hdigits := (firstFault?_eq_none_iff_isDigit _).mp hfault
        exact .inr (.inr ⟨heven, hdigits, _, rfl⟩)

theorem decode_eq_oddLength_iff {text : String} {n : Nat} :
    decode text = .error (.oddLength n) ↔ n = (digitBytes text).length ∧ n % 2 = 1 := by
  have hno (heven : (digitBytes text).length % 2 = 0) :
      ¬(n = (digitBytes text).length ∧ n % 2 = 1) := by
    rintro ⟨rfl, hodd⟩
    omega
  rcases decode_cases text with ⟨hodd, h⟩ | ⟨heven, _, _, -, h⟩ | ⟨heven, -, _, h⟩ <;> rw [h]
  · constructor
    · rintro ⟨⟩
      exact ⟨rfl, hodd⟩
    · rintro ⟨rfl, -⟩
      rfl
  · exact iff_of_false nofun (hno heven)
  · exact iff_of_false nofun (hno heven)

theorem decode_eq_invalidHex_iff {text : String} {offset : Nat} {found : Char} :
    decode text = .error (.invalidHex offset found) ↔ (digitBytes text).length % 2 = 0 ∧
      ∃ byte, Hex.FirstFault (digitBytes text) offset byte ∧ found = Char.ofNat byte.toNat := by
  rcases decode_cases text with
    ⟨hodd, h⟩ | ⟨heven, _, byte, hfirst, h⟩ | ⟨-, hdigits, _, h⟩ <;> rw [h]
  · exact iff_of_false nofun fun ⟨heven, _⟩ => by omega
  · constructor
    · rintro ⟨⟩
      exact ⟨heven, byte, hfirst, rfl⟩
    · rintro ⟨-, other, hother, rfl⟩
      obtain ⟨rfl, rfl⟩ := hfirst.unique hother
      rfl
  · exact iff_of_false nofun fun ⟨_, _, hfirst, _⟩ => hfirst.not_forall_isDigit hdigits

theorem decode_eq_ok_iff_written {text : String} {code : Code} :
    decode text = .ok code ↔ (digitBytes text).length % 2 = 0 ∧
      (∀ byte ∈ digitBytes text, IsDigit byte) ∧
        ∃ bytes, Hex.Written bytes (Hex.dropPrefix text.toList) ∧ code = ofBytes bytes := by
  simp only [decode_eq_ok_iff, Hex.isSpelling_iff]
  refine ⟨fun hwritten => ?_, fun h => h.2.2⟩
  have hok : decode text = .ok code := by simpa only [decode_eq_ok_iff, Hex.isSpelling_iff]
  rcases decode_cases text with ⟨-, h⟩ | ⟨-, _, _, -, h⟩ | ⟨heven, hdigits, -⟩
  · cases hok.symm.trans h
  · cases hok.symm.trans h
  · exact ⟨heven, hdigits, hwritten⟩

/-- A text is decoded if and only if what remains without its prefix consists of pairs of digits.
Of other texts an odd number of bytes is reported before all else, and then the first byte that is
no digit, with its offset and as a character of its own. -/
theorem decode_reports_first_fault (text : String) :
    ∃ digits, Hex.Bare text digits ∧
      (∀ n, decode text = .error (.oddLength n) ↔ n = digits.utf8ByteSize ∧ n % 2 = 1) ∧
      (∀ offset found, decode text = .error (.invalidHex offset found) ↔
        digits.utf8ByteSize % 2 = 0 ∧ ∃ byte, Hex.FirstFault (Hex.encoded digits) offset byte ∧
          found = Char.ofNat byte.toNat) ∧
      ∀ code, decode text = .ok code ↔
        digits.utf8ByteSize % 2 = 0 ∧ (∀ byte ∈ Hex.encoded digits, IsDigit byte) ∧
          ∃ bytes, Hex.Written bytes digits.toList ∧
            code.opcodes = bytes.filterMap Opcode.mnemonic? := by
  refine ⟨_, Hex.bare_dropPrefix text, ?_, ?_, ?_⟩
  · intro n
    rw [decode_eq_oddLength_iff, digitBytes_eq, length_encoded]
  · intro offset found
    rw [decode_eq_invalidHex_iff, digitBytes_eq, length_encoded]
  · intro code
    rw [decode_eq_ok_iff_written, digitBytes_eq, length_encoded, String.toList_ofList]
    cases code
    simp [ofBytes]

/-- One prefix is taken away and no more, and the bytes of one character stand apart. -/
example : decode "0x0x" = .error (.invalidHex 1 'x') ∧ decode "0xé" = .error (.invalidHex 0 'Ã') ∧
    decode "0xz" = .error (.oddLength 1) ∧ decode "0X600CfE" = .ok ⟨["PUSH1", "INVALID"]⟩ := by
  decide +kernel

end Code

end Honeypot
