import Honeypot.Number.Double
import Mathlib.Algebra.Group.Nat.Defs

namespace Honeypot.Double

open Float.Model
open Float.Model.UnpackedFloat (Sign packComponents unpackExponent unpackMantissa unpackSign)

abbrev Word := BitVec Format.binary64.numBits

theorem toNat_unpackExponent (b : Word) :
    (unpackExponent b).toNat = b.toNat / 2 ^ 52 % 2 ^ 11 := by
  simp [unpackExponent, BitVec.extractLsb, Nat.shiftRight_eq_div_pow]

theorem toNat_unpackMantissa (b : Word) : (unpackMantissa b).toNat = b.toNat % 2 ^ 52 := by
  simp [unpackMantissa, BitVec.extractLsb]

theorem toNat_unpackSign (b : Word) : (unpackSign b).toNat = b.toNat / 2 ^ 63 := by
  have hb : b.toNat < 2 ^ 64 := b.isLt
  change (BitVec.extractLsb 63 63 b).toNat = _
  rw [BitVec.extractLsb_toNat, Nat.shiftRight_eq_div_pow]
  omega

theorem toBitVec_ofBitVec (b : BitVec 1) : (Sign.ofBitVec b).toBitVec = b := by
  rcases BitVec.eq_zero_or_eq_one b with rfl | rfl <;> rfl

theorem toNat_packComponents (s : Sign) (e : BitVec Format.binary64.exponentBits)
    (m : BitVec Format.binary64.mantissaBitsWithoutImplicit) :
    (packComponents .binary64 s e m).toNat =
      (s.toBitVec.toNat * 2 ^ 11 + e.toNat) * 2 ^ 52 + m.toNat := by
  have he : e.toNat < 2 ^ 11 := e.isLt
  have hm : m.toNat < 2 ^ 52 := m.isLt
  change (s.toBitVec ++ e ++ m).toNat = _
  rw [BitVec.toNat_append, BitVec.toNat_append, ← Nat.shiftLeft_add_eq_or_of_lt hm,
    ← Nat.shiftLeft_add_eq_or_of_lt he, Nat.shiftLeft_eq, Nat.shiftLeft_eq]

theorem packComponents_fields (b : Word) :
    packComponents .binary64 (Sign.ofBitVec (unpackSign b)) (unpackExponent b)
      (unpackMantissa b) = b := by
  have hb : b.toNat < 2 ^ 64 := b.isLt
  apply BitVec.eq_of_toNat_eq
  rw [toNat_packComponents, toBitVec_ofBitVec, toNat_unpackSign, toNat_unpackExponent,
    toNat_unpackMantissa]
  omega

theorem toNat_one_append (m : BitVec Format.binary64.mantissaBitsWithoutImplicit) :
    (1#1 ++ m).toNat = 2 ^ 52 + m.toNat := by
  have hm : m.toNat < 2 ^ 52 := m.isLt
  rw [BitVec.toNat_append, ← Nat.shiftLeft_add_eq_or_of_lt hm, Nat.shiftLeft_eq]
  simp

theorem pack_finite (s : Sign) (m : Nat) (e : Int) (hpos : 0 < m) :
    UnpackedFloat.pack .binary64 (.finite s m e hpos) =
      if 2 ^ 11 ≤ (e + (1023 : Nat) + (52 : Nat)).toNat + 1 then
        UnpackedFloat.packedInfinity .binary64 s
      else if m.log2 + 1 = 53 then
        packComponents .binary64 s (BitVec.ofNat _ (e + (1023 : Nat) + (52 : Nat)).toNat)
          (BitVec.ofNat _ m)
      else packComponents .binary64 s 0#_ (BitVec.ofNat _ m) := rfl

/-- A finite number with all 53 bits of its mantissa keeps the exponent that it was given. -/
theorem pack_normal (s : Sign) (e : BitVec Format.binary64.exponentBits)
    (m : BitVec Format.binary64.mantissaBitsWithoutImplicit) (he : e.toNat ≠ 2047)
    (hpos : 0 < (1#1 ++ m).toNat) :
    UnpackedFloat.pack .binary64 (.finite s (1#1 ++ m).toNat (e.toNat - (1023 + 52 : Nat)) hpos) =
      packComponents .binary64 s e m := by
  have hm : m.toNat < 2 ^ 52 := m.isLt
  have hexp : e.toNat < 2 ^ 11 := e.isLt
  have hvalue := toNat_one_append m
  have hlog : (1#1 ++ m).toNat.log2 = 52 :=
    (Nat.log2_eq_iff (by omega)).mpr ⟨by omega, by omega⟩
  have hbiased : ((e.toNat : Int) - (1023 + 52 : Nat) + (1023 : Nat) + (52 : Nat)).toNat =
      e.toNat := by
    omega
  rw [pack_finite, hbiased, if_neg (by omega), if_pos (by rw [hlog]), BitVec.ofNat_toNat,
    BitVec.setWidth_eq]
  congr 1
  apply BitVec.eq_of_toNat_eq
  rw [BitVec.toNat_ofNat, hvalue, Nat.add_mod_left, Nat.mod_eq_of_lt hm]

/-- A finite number whose mantissa falls short of 53 bits is written with the exponent zero. -/
theorem pack_subnormal (s : Sign) (m : BitVec Format.binary64.mantissaBitsWithoutImplicit)
    (hpos : 0 < m.toNat) :
    UnpackedFloat.pack .binary64 (.finite s m.toNat (-1074) hpos) =
      packComponents .binary64 s 0#_ m := by
  have hm : m.toNat < 2 ^ 52 := m.isLt
  have hlog : m.toNat.log2 < 52 := (Nat.log2_lt (by omega)).mpr hm
  rw [pack_finite, if_neg (by decide), if_neg (by omega), BitVec.ofNat_toNat, BitVec.setWidth_eq]

theorem unpack_cases (b : Word) :
    (unpackExponent b = -1#_ ∧ unpackMantissa b = 0#_ ∧
      UnpackedFloat.unpack .binary64 b = .infinity (Sign.ofBitVec (unpackSign b))) ∨
    (unpackExponent b = -1#_ ∧ unpackMantissa b ≠ 0#_ ∧
      UnpackedFloat.unpack .binary64 b = .notANumber) ∨
    (unpackExponent b = 0#_ ∧ unpackMantissa b = 0#_ ∧
      UnpackedFloat.unpack .binary64 b = .zero (Sign.ofBitVec (unpackSign b))) ∨
    (unpackExponent b = 0#_ ∧ ∃ hpos, UnpackedFloat.unpack .binary64 b =
      .finite (Sign.ofBitVec (unpackSign b)) (unpackMantissa b).toNat (-1074) hpos) ∨
    (unpackExponent b ≠ -1#_ ∧ ∃ hpos, UnpackedFloat.unpack .binary64 b =
      .finite (Sign.ofBitVec (unpackSign b)) (1#1 ++ unpackMantissa b).toNat
        ((unpackExponent b).toNat - (1023 + 52 : Nat)) hpos) := by
  by_cases he : unpackExponent b = -1#_
  · by_cases hm : unpackMantissa b = 0#_
    · exact .inl ⟨he, hm, (if_pos he).trans (if_pos hm)⟩
    · exact .inr (.inl ⟨he, hm, (if_pos he).trans (if_neg hm)⟩)
  · by_cases hzero : unpackExponent b = 0#_
    · by_cases hm : unpackMantissa b = 0#_
      · exact .inr (.inr (.inl
          ⟨hzero, hm, (if_neg he).trans ((if_pos hzero).trans (dif_pos hm))⟩))
      · have hpos : 0 < (unpackMantissa b).toNat :=
          Nat.pos_of_ne_zero fun h => hm (BitVec.eq_of_toNat_eq h)
        have hexp : ((unpackExponent b).toNat : Int) - (Format.binary64.exponentBias +
            Format.binary64.mantissaBitsWithoutImplicit) + 1 = -1074 := by
          rw [hzero]
          rfl
        refine .inr (.inr (.inr (.inl ⟨hzero, hpos, ?_⟩)))
        rw [← hexp]
        exact (if_neg he).trans ((if_pos hzero).trans (dif_neg hm))
    · exact .inr (.inr (.inr (.inr ⟨he, _, (if_neg he).trans (if_neg hzero)⟩)))

theorem pack_unpack {b : Word} (hb : Format.binary64.Valid b) :
    UnpackedFloat.pack .binary64 (UnpackedFloat.unpack .binary64 b) = b := by
  have hword := packComponents_fields b
  rcases unpack_cases b with
    ⟨he, hm, h⟩ | ⟨he, hm, h⟩ | ⟨he, hm, h⟩ | ⟨he, hpos, h⟩ | ⟨he, hpos, h⟩
  · rw [h]
    rwa [he, hm] at hword
  · rw [h]
    exact (hb.eq_packedNaN he hm).symm
  · rw [h]
    rwa [he, hm] at hword
  · rw [h, pack_subnormal, ← he, hword]
  · have hne : (unpackExponent b).toNat ≠ 2047 := fun h => he (BitVec.eq_of_toNat_eq h)
    rw [h, pack_normal _ _ _ hne, hword]

/-- A double is the double of its bits. -/
theorem ofBits_toBits (x : Float) : Float.ofBits x.toBits = x := by
  obtain ⟨⟨bits, hvalid⟩⟩ := x
  change (⟨⟨UInt64.ofBitVec _, _⟩⟩ : Float) = _
  congr 2
  exact congrArg UInt64.ofBitVec (pack_unpack hvalid)

/-- The bits of a double whose exponent is not the highest are those that it was made of. -/
theorem toBits_ofBits {w : UInt64} (hw : @unpackExponent .binary64 w.toBitVec ≠ -1#_) :
    (Float.ofBits w).toBits = w := by
  have hvalid : Format.binary64.Valid w.toBitVec := ⟨fun h => absurd h hw⟩
  exact congrArg UInt64.ofBitVec (pack_unpack hvalid)

theorem unpack_isFinite_iff (b : Word) :
    (UnpackedFloat.unpack .binary64 b).isFinite = true ↔ unpackExponent b ≠ -1#_ := by
  have hzero (he : unpackExponent b = 0#_) : unpackExponent b ≠ -1#_ := by
    rw [he]
    decide
  rcases unpack_cases b with ⟨he, -, h⟩ | ⟨he, -, h⟩ | ⟨he, -, h⟩ | ⟨he, _, h⟩ | ⟨he, _, h⟩
  · exact iff_of_false (by rw [h]; nofun) (not_not_intro he)
  · exact iff_of_false (by rw [h]; nofun) (not_not_intro he)
  · exact iff_of_true (by rw [h]; rfl) (hzero he)
  · exact iff_of_true (by rw [h]; rfl) (hzero he)
  · exact iff_of_true (by rw [h]; rfl) he

theorem unpackExponent_ne_iff (b : Word) :
    unpackExponent b ≠ -1#_ ↔ b.toNat % signBit < infinity := by
  have hmax : (-1#_ : BitVec Format.binary64.exponentBits).toNat = 2047 := rfl
  rw [ne_eq, ← BitVec.toNat_inj, hmax, toNat_unpackExponent]
  change ¬_ ↔ b.toNat % 2 ^ 63 < 0x7FF * 2 ^ 52
  omega

/-- The finite doubles are those whose pattern is below infinity. -/
theorem isFinite_iff_magnitude_lt (x : Float) : x.isFinite = true ↔ magnitude x < infinity :=
  (unpack_isFinite_iff _).trans (unpackExponent_ne_iff _)

theorem ofPattern_magnitude (x : Float) : ofPattern (isNegative x) (magnitude x) = x := by
  have hbits : x.toBits.toNat < 2 ^ 64 := x.toBits.toNat_lt
  have hsign : signBit = 2 ^ 63 := rfl
  have hsum : magnitude x + (if isNegative x then signBit else 0) = x.toBits.toNat := by
    simp only [magnitude, isNegative, decide_eq_true_eq, hsign]
    split <;> omega
  rw [ofPattern, hsum, UInt64.ofNat_toNat, ofBits_toBits]

theorem isFinite_ofPattern {negative : Bool} {pattern : Nat} (h : pattern < infinity) :
    (ofPattern negative pattern).isFinite = true := by
  have hinf : infinity < 2 ^ 63 := by decide
  have hsign : signBit = 2 ^ 63 := rfl
  have hword : (UInt64.ofNat (pattern + if negative then signBit else 0)).toBitVec.toNat %
      signBit = pattern := by
    rw [UInt64.toNat_toBitVec, UInt64.toNat_ofNat', hsign]
    split <;> omega
  have hexp := (unpackExponent_ne_iff _).mpr (hword.symm ▸ h)
  rw [isFinite_iff_magnitude_lt, magnitude, ofPattern, toBits_ofBits hexp]
  exact hword.symm ▸ h

end Honeypot.Double
