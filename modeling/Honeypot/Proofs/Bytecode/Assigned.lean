import Honeypot.Proofs.Bytecode.Spelling
import Mathlib.Data.List.Basic

namespace Honeypot

namespace Opcode

/-- The bytes that stand for an opcode. -/
def Assigned (byte : UInt8) : Prop :=
  byte ≤ 0x0B ∨ 0x10 ≤ byte ∧ byte ≤ 0x1D ∨ byte = 0x20 ∨ 0x30 ≤ byte ∧ byte ≤ 0x4A ∨
    0x50 ≤ byte ∧ byte ≤ 0xA4 ∨ 0xF0 ≤ byte ∧ byte ≤ 0xF5 ∨ byte = 0xFA ∨ 0xFD ≤ byte

instance : DecidablePred Assigned := fun byte => by
  unfold Assigned
  infer_instance

/-- The byte that a mnemonic stands for, by its place in the table. -/
def byte? (mnemonic : String) : Option UInt8 :=
  blocks.findSome? fun (first, names) =>
    (names.idxOf? mnemonic).map fun place => UInt8.ofNat (first + place)

theorem isSome_mnemonic?_iff_exists (byte : UInt8) : (mnemonic? byte).isSome ↔
    ∃ block ∈ blocks, block.1 ≤ byte.toNat ∧ byte.toNat < block.1 + block.2.length := by
  rw [mnemonic?, List.findSome?_isSome_iff]
  refine exists_congr fun block => and_congr_right fun _ => ?_
  obtain ⟨first, names⟩ := block
  dsimp only
  split
  · rename_i hfirst
    rw [isSome_getElem?]
    omega
  · rename_i hfirst
    exact iff_of_false nofun fun h => hfirst h.1

theorem isSome_mnemonic?_iff (byte : UInt8) : (mnemonic? byte).isSome ↔ Assigned byte := by
  rw [isSome_mnemonic?_iff_exists]
  simp only [blocks, List.mem_cons, List.not_mem_nil, or_false, exists_eq_or_imp, exists_eq_left,
    List.length_cons, List.length_nil]
  simp only [Assigned, UInt8.le_iff_toNat_le, ← UInt8.toNat_inj, UInt8.reduceToNat]
  have hbyte := byte.toNat_lt
  omega

/-- A mnemonic is not found before its own place in the table. -/
theorem byte?_of_mem_blocks {first place : Nat} {names : List String} {name : String}
    (hblock : (first, names) ∈ blocks) (hplace : (name, place) ∈ names.zipIdx) :
    byte? name = some (UInt8.ofNat (first + place)) := by
  have hall : (blocks.all fun (first, names) => names.zipIdx.all fun (name, place) =>
      byte? name == some (UInt8.ofNat (first + place))) = true := by
    decide +kernel
  exact eq_of_beq (List.all_eq_true.mp (List.all_eq_true.mp hall _ hblock) _ hplace)

theorem byte?_of_mnemonic? {byte : UInt8} {name : String} (h : mnemonic? byte = some name) :
    byte? name = some byte := by
  obtain ⟨⟨first, names⟩, hblock, hname⟩ := List.exists_of_findSome?_eq_some h
  dsimp only at hname
  split at hname
  · rename_i hfirst
    have hentry : (name, byte.toNat - first) ∈ names.zipIdx :=
      List.mem_zipIdx_iff_getElem?.mpr hname
    have hplace : first + (byte.toNat - first) = byte.toNat := by omega
    have hbyte := byte?_of_mem_blocks hblock hentry
    rwa [hplace, UInt8.ofNat_toNat] at hbyte
  · cases hname

theorem bind_mnemonic?_byte? (byte : UInt8) :
    (mnemonic? byte).bind byte? = if Assigned byte then some byte else none := by
  have hassigned := isSome_mnemonic?_iff byte
  cases h : mnemonic? byte with
  | some name =>
      rw [h] at hassigned
      rw [Option.bind_some, byte?_of_mnemonic? h, if_pos (hassigned.mp rfl)]
  | none =>
      rw [h] at hassigned
      rw [Option.bind_none, if_neg fun hbyte => by cases hassigned.mpr hbyte]

end Opcode

theorem Hex.Written.append {bytes later : List UInt8} {digits rest : List Char}
    (h : Written bytes digits) (hlater : Written later rest) :
    Written (bytes ++ later) (digits ++ rest) := by
  induction h with
  | nil => exact hlater
  | cons hhigh hlow _ ih => exact .cons hhigh hlow ih

namespace Code

open Opcode (Assigned byte?)

theorem decode_of_isSpelling {text : String} {bytes : List UInt8}
    (h : Hex.IsSpelling text bytes) : decode text = .ok (ofBytes bytes) :=
  decode_eq_ok_iff.mpr ⟨bytes, h, rfl⟩

theorem opcodes_ofBytes_eq_nil_iff {bytes : List UInt8} :
    (ofBytes bytes).opcodes = [] ↔ ∀ byte ∈ bytes, ¬Assigned byte := by
  rw [ofBytes, List.filterMap_eq_nil_iff]
  refine forall₂_congr fun byte _ => ?_
  rw [← Opcode.isSome_mnemonic?_iff, Option.not_isSome_iff_eq_none]

theorem length_ofBytes (bytes : List UInt8) :
    (ofBytes bytes).length = bytes.countP fun byte => Assigned byte := by
  rw [length, ofBytes, List.length_filterMap_eq_countP]
  refine List.countP_congr fun byte _ => ?_
  rw [Opcode.isSome_mnemonic?_iff, decide_eq_true_iff]

theorem filterMap_byte?_ofBytes (bytes : List UInt8) :
    (ofBytes bytes).opcodes.filterMap byte? = bytes.filter fun byte => Assigned byte := by
  rw [ofBytes, List.filterMap_filterMap, ← List.filterMap_eq_filter]
  refine List.filterMap_congr fun byte _ => ?_
  rw [Opcode.bind_mnemonic?_byte?]
  simp [Option.guard]

theorem ofBytes_filter_assigned (bytes : List UInt8) :
    ofBytes (bytes.filter fun byte => Assigned byte) = ofBytes bytes := by
  rw [ofBytes, ofBytes, List.filterMap_filter]
  refine congrArg Code.mk (List.filterMap_congr fun byte _ => ?_)
  have hassigned := Opcode.isSome_mnemonic?_iff byte
  by_cases h : Assigned byte
  · simp [h]
  · rw [← hassigned, Option.not_isSome_iff_eq_none] at h
    simp [h]

theorem ofBytes_eq_iff {bytes bytes' : List UInt8} : ofBytes bytes = ofBytes bytes' ↔
    (bytes.filter fun byte => Assigned byte) = bytes'.filter fun byte => Assigned byte := by
  constructor
  · intro h
    rw [← filterMap_byte?_ofBytes, ← filterMap_byte?_ofBytes, h]
  · intro h
    rw [← ofBytes_filter_assigned bytes, h, ofBytes_filter_assigned]

theorem ofBytes_append (bytes later : List UInt8) :
    ofBytes (bytes ++ later) = ⟨(ofBytes bytes).opcodes ++ (ofBytes later).opcodes⟩ :=
  congrArg Code.mk List.filterMap_append

theorem decode_append {text digits : String} {code : Code} (h : decode text = .ok code)
    (heven : digits.length % 2 = 0) (hdigits : ∀ c ∈ digits.toList, ∃ n, Hex.IsDigitOf n c) :
    ∃ later, decode digits = .ok later ∧
      decode (text ++ digits) = .ok ⟨code.opcodes ++ later.opcodes⟩ := by
  obtain ⟨bytes, ⟨mark, hmark, front, rfl, hfront⟩, rfl⟩ := decode_eq_ok_iff.mp h
  obtain ⟨later, hlater⟩ := Hex.Written.exists_of_digits digits.toList
    (fun c hc => by
      obtain ⟨n, hn⟩ := hdigits c hc
      rw [Hex.hexValue?_eq_some_iff.mpr hn]
      rfl)
    heven
  refine ⟨ofBytes later, decode_of_isSpelling ⟨"", by simp, digits, by simp, hlater⟩, ?_⟩
  rw [← ofBytes_append]
  refine decode_of_isSpelling ⟨mark, hmark, front ++ digits, String.append_assoc, ?_⟩
  rw [String.toList_append]
  exact hfront.append hlater

/-- Every spelling of some bytes is decoded to as many opcodes as there are assigned bytes among
them, and these can be read off again. Two texts are decoded alike if and only if they spell the
same assigned bytes in the same order. What follows a text as digits is decoded on its own and
follows. -/
theorem decode_keeps_assigned_bytes :
    (∀ text bytes, Hex.IsSpelling text bytes → ∃ code, decode text = .ok code ∧
      code.length = (bytes.countP fun byte => Assigned byte) ∧
      code.opcodes.filterMap byte? = bytes.filter fun byte => Assigned byte) ∧
    (∀ text text' bytes bytes', Hex.IsSpelling text bytes → Hex.IsSpelling text' bytes' →
      (decode text = decode text' ↔
        (bytes.filter fun byte => Assigned byte) = bytes'.filter fun byte => Assigned byte)) ∧
    ∀ text digits code, decode text = .ok code → digits.length % 2 = 0 →
      (∀ c ∈ digits.toList, ∃ n, Hex.IsDigitOf n c) →
      ∃ later, decode digits = .ok later ∧
        decode (text ++ digits) = .ok ⟨code.opcodes ++ later.opcodes⟩ := by
  refine ⟨?_, ?_, ?_⟩
  · intro text bytes h
    exact ⟨_, decode_of_isSpelling h, length_ofBytes bytes, filterMap_byte?_ofBytes bytes⟩
  · intro text text' bytes bytes' h h'
    rw [decode_of_isSpelling h, decode_of_isSpelling h', Except.ok.injEq, ofBytes_eq_iff]
  · intro text digits code h heven hdigits
    exact decode_append h heven hdigits

theorem decode_keeps_assigned_bytes_padded :
    (∃ code, decode "0X0c60Ef" = .ok code ∧ code.length = 1 ∧
      code.opcodes.filterMap byte? = [0x60]) ∧
    decode "0X0c60Ef" = decode "60" ∧
    ∃ later, decode "fF21" = .ok later ∧
      decode ("0X0c60Ef" ++ "fF21") = .ok ⟨["PUSH1"] ++ later.opcodes⟩ := by
  have hpadded : Hex.IsSpelling "0X0c60Ef" [0x0C, 0x60, 0xEF] :=
    ⟨"0X", by simp, "0c60Ef", rfl, .cons (by decide) (by decide)
      (.cons (by decide) (by decide) (.cons (by decide) (by decide) .nil))⟩
  have hbare : Hex.IsSpelling "60" [0x60] :=
    ⟨"", by simp, "60", rfl, .cons (by decide) (by decide) .nil⟩
  have hdigits : ∀ c ∈ "fF21".toList, ∃ n, Hex.IsDigitOf n c := by
    rw [show "fF21".toList = ['f', 'F', '2', '1'] from rfl]
    simp only [List.forall_mem_cons]
    exact ⟨⟨15, by decide⟩, ⟨15, by decide⟩, ⟨2, by decide⟩, ⟨1, by decide⟩, by simp⟩
  have hcode : decode "0X0c60Ef" = .ok ⟨["PUSH1"]⟩ := by decide +kernel
  exact ⟨decode_keeps_assigned_bytes.1 _ _ hpadded,
    (decode_keeps_assigned_bytes.2.1 _ _ _ _ hpadded hbare).mpr (by decide),
    decode_keeps_assigned_bytes.2.2 _ _ _ hcode (by decide) hdigits⟩

end Code

end Honeypot
