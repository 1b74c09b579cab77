import Mathlib
import ObjectQuery.Number.Binary

/-!
# Exact values and unpacked numbers

The exact value that is read off the bits of a float is what the unpacked form of the float stands for
(`Float.binaryValue_eq`, `Float32.binaryValue_eq`). So a float is infinite, undefined or finite exactly if its
value is.
-/

namespace ObjectQuery

open Float.Model Float.Model.UnpackedFloat

/-! ## Bit patterns -/

/-- What an unpacked number of a format stands for. -/
def BinaryValue.ofUnpacked (format : BinaryFormat) : UnpackedFloat → BinaryValue
  | .notANumber => .undefined
  | .infinity sign => .infinite (sign == .negative)
  | .zero sign => .finite (sign == .negative) 0 format.leastPower
  | .finite sign significand power _ => .finite (sign == .negative) significand power

namespace BinaryFormat

/-- The format with the same fields. -/
def ofModel (spec : Float.Model.Format) : BinaryFormat :=
  ⟨spec.mantissaBitsWithoutImplicit, spec.exponentBits⟩

variable {spec : Float.Model.Format} {bits : BitVec spec.numBits}

theorem toNat_unpackMantissa (bits : BitVec spec.numBits) :
    (unpackMantissa bits).toNat = bits.toNat % 2 ^ spec.mantissaBitsWithoutImplicit := by
  have positive := spec.hm
  rw [unpackMantissa, BitVec.toNat_cast, BitVec.extractLsb_toNat, Nat.shiftRight_zero]
  congr 2
  omega

theorem toNat_unpackExponent (bits : BitVec spec.numBits) :
    (unpackExponent bits).toNat =
      bits.toNat / 2 ^ spec.mantissaBitsWithoutImplicit % 2 ^ spec.exponentBits := by
  have positive := spec.he
  rw [unpackExponent, BitVec.toNat_cast, BitVec.extractLsb_toNat, Nat.shiftRight_eq_div_pow]
  congr 2
  omega

theorem toNat_unpackSign (bits : BitVec spec.numBits) :
    (unpackSign bits).toNat =
      bits.toNat / 2 ^ (spec.mantissaBitsWithoutImplicit + spec.exponentBits) := by
  have small := bits.isLt
  have halves : 2 ^ spec.numBits =
      2 ^ (spec.mantissaBitsWithoutImplicit + spec.exponentBits) * 2 := by
    rw [← Nat.pow_succ]
    congr 1
    unfold Format.numBits
    omega
  rw [unpackSign, BitVec.toNat_cast, BitVec.extractLsb_toNat, Nat.shiftRight_eq_div_pow, Nat.sub_self]
  refine Nat.mod_eq_of_lt (Nat.div_lt_of_lt_mul ?_)
  omega

theorem signBit_ofModel :
    (ofModel spec).signBit = 2 ^ (spec.mantissaBitsWithoutImplicit + spec.exponentBits) := rfl

/-- The exponent field, as it is read. -/
theorem exponent_ofModel (bits : BitVec spec.numBits) :
    bits.toNat % (ofModel spec).signBit / Nat.pow 2 (ofModel spec).fractionBits =
      (unpackExponent bits).toNat := by
  rw [signBit_ofModel, Nat.pow_add, toNat_unpackExponent]
  exact Nat.mod_mul_right_div_self ..

theorem fraction_ofModel (bits : BitVec spec.numBits) :
    bits.toNat % (ofModel spec).signBit % Nat.pow 2 (ofModel spec).fractionBits =
      (unpackMantissa bits).toNat := by
  rw [signBit_ofModel, Nat.pow_add, toNat_unpackMantissa]
  exact Nat.mod_mod_of_dvd _ (Nat.dvd_mul_right ..)

theorem negative_ofModel (bits : BitVec spec.numBits) :
    decide ((ofModel spec).signBit ≤ bits.toNat) =
      (Sign.ofBitVec (unpackSign bits) == .negative) := by
  have sign := toNat_unpackSign bits
  have positive : 0 < 2 ^ (spec.mantissaBitsWithoutImplicit + spec.exponentBits) := Nat.two_pow_pos _
  rw [signBit_ofModel, Sign.ofBitVec]
  by_cases zero : unpackSign bits = 0#1
  · rw [zero, BitVec.toNat_zero, eq_comm, Nat.div_eq_zero_iff_lt positive] at sign
    rw [if_pos zero, decide_eq_false (Nat.not_le_of_lt sign)]
    rfl
  · have nonzero : (unpackSign bits).toNat ≠ 0 := fun same => zero (BitVec.toNat_inj.mp same)
    have atLeast : 2 ^ (spec.mantissaBitsWithoutImplicit + spec.exponentBits) ≤ bits.toNat :=
      Nat.le_of_not_lt fun small => nonzero (sign.trans (Nat.div_eq_of_lt small))
    rw [if_neg zero, decide_eq_true atLeast]
    rfl

theorem top_iff (bits : BitVec spec.numBits) :
    (unpackExponent bits).toNat = (ofModel spec).topExponent ↔ unpackExponent bits = -1#_ := by
  rw [← BitVec.toNat_inj, BitVec.neg_one_eq_allOnes, BitVec.toNat_allOnes]
  exact Iff.rfl

/-- The bits of a pattern are read the way they are unpacked. -/
theorem read_toNat (bits : BitVec spec.numBits) :
    (ofModel spec).read bits.toNat = .ofUnpacked (ofModel spec) (unpack spec bits) := by
  have half : 0 < 2 ^ (spec.exponentBits - 1) := Nat.two_pow_pos _
  have least : (ofModel spec).leastPower =
      2 - (2 ^ (spec.exponentBits - 1) : Nat) - spec.mantissaBitsWithoutImplicit := rfl
  have bias : spec.exponentBias = 2 ^ (spec.exponentBits - 1) - 1 := rfl
  have nothing (width : Nat) (vector : BitVec width) : vector.toNat = 0 ↔ vector = 0#_ := by
    rw [← BitVec.toNat_inj, BitVec.toNat_zero]
  unfold read UnpackedFloat.unpack
  simp only [exponent_ofModel, fraction_ofModel, negative_ofModel, top_iff]
  by_cases top : unpackExponent bits = -1#_
  · rw [if_pos top, if_pos top]
    by_cases none : unpackMantissa bits = 0#_
    · rw [if_pos ((nothing _ _).mpr none), if_pos none]
      rfl
    · rw [if_neg (mt (nothing _ _).mp none), if_neg none]
      rfl
  · rw [if_neg top, if_neg top]
    by_cases bottom : unpackExponent bits = 0#_
    · rw [if_pos ((nothing _ _).mpr bottom), if_pos bottom]
      by_cases none : unpackMantissa bits = 0#_
      · rw [dif_pos none, (nothing _ _).mpr none]
        rfl
      · rw [dif_neg none]
        change BinaryValue.finite _ _ _ = BinaryValue.finite _ _ _
        congr 1
        rw [bottom, BitVec.toNat_zero, least, bias]
        omega
    · have positive := mt (nothing _ _).mp bottom
      rw [if_neg positive, if_neg bottom]
      change BinaryValue.finite _ _ _ = BinaryValue.finite _ _ _
      congr 1
      · rw [BitVec.toNat_append, ← Nat.shiftLeft_add_eq_or_of_lt (unpackMantissa bits).isLt,
          Nat.shiftLeft_eq, Nat.add_comm]
        exact congrArg (· + _) (Nat.one_mul _).symm
      · rw [least, bias]
        omega

/-- The one valid pattern that is no number. -/
theorem eq_packedNaN (valid : spec.Valid bits) (undefined : unpack spec bits = .notANumber) :
    bits = packedNaN spec := by
  have top : unpackExponent bits = -1#_ ∧ unpackMantissa bits ≠ 0#_ := by
    unfold UnpackedFloat.unpack at undefined
    dsimp only at undefined
    split at undefined
    · split at undefined
      · exact UnpackedFloat.noConfusion undefined
      · exact ⟨‹_›, ‹_›⟩
    · split at undefined
      · split at undefined <;> exact UnpackedFloat.noConfusion undefined
      · exact UnpackedFloat.noConfusion undefined
  exact valid.eq_packedNaN top.1 top.2

end BinaryFormat

end ObjectQuery

/-! ## Floats -/

open ObjectQuery

/-- The exact value of a float is that of its unpacked form. -/
theorem Float.binaryValue_eq (x : Float) :
    x.binaryValue = .ofUnpacked .double x.toModel.unpack :=
  @BinaryFormat.read_toNat .binary64 x.toModel.toBits.toBitVec

theorem Float32.binaryValue_eq (x : Float32) :
    x.binaryValue = .ofUnpacked .single x.toModel.unpack :=
  @BinaryFormat.read_toNat .binary32 x.toModel.toBits.toBitVec

/-- A float is no number exactly if its value is undefined. -/
theorem Float.isNaN_iff (x : Float) : x.isNaN = true ↔ x.binaryValue = .undefined := by
  rw [Float.binaryValue_eq]
  change x.toModel.unpack.isNaN = true ↔ _
  cases x.toModel.unpack with
  | notANumber => exact iff_of_true rfl rfl
  | infinity | zero | finite => exact iff_of_false Bool.false_ne_true BinaryValue.noConfusion

theorem Float32.isNaN_iff (x : Float32) : x.isNaN = true ↔ x.binaryValue = .undefined := by
  rw [Float32.binaryValue_eq]
  change x.toModel.unpack.isNaN = true ↔ _
  cases x.toModel.unpack with
  | notANumber => exact iff_of_true rfl rfl
  | infinity | zero | finite => exact iff_of_false Bool.false_ne_true BinaryValue.noConfusion

/-- A float is finite exactly if its value is. -/
theorem Float.isFinite_iff (x : Float) :
    x.isFinite = true ↔
      ∃ negative significand power, x.binaryValue = .finite negative significand power := by
  rw [Float.binaryValue_eq]
  change x.toModel.unpack.isFinite = true ↔ _
  cases x.toModel.unpack with
  | notANumber | infinity =>
      exact iff_of_false Bool.false_ne_true fun ⟨_, _, _, same⟩ => BinaryValue.noConfusion same
  | zero | finite => exact iff_of_true rfl ⟨_, _, _, rfl⟩

/-- There is one number that is undefined. -/
theorem Float32.eq_of_isNaN {x y : Float32} (first : x.isNaN = true) (second : y.isNaN = true) : x = y := by
  have bits (x : Float32) (unordered : x.isNaN = true) :
      x.toModel.toBits.toBitVec = Float.Model.UnpackedFloat.packedNaN .binary32 := by
    refine BinaryFormat.eq_packedNaN x.toModel.valid ?_
    change x.toModel.unpack.isNaN = true at unordered
    change x.toModel.unpack = .notANumber
    cases unpacked : x.toModel.unpack with
    | notANumber => rfl
    | infinity | zero | finite =>
        rw [unpacked] at unordered
        exact absurd unordered Bool.false_ne_true
  have same := UInt32.toBitVec_inj.mp ((bits x first).trans (bits y second).symm)
  obtain ⟨⟨_, _⟩⟩ := x
  obtain ⟨⟨_, _⟩⟩ := y
  obtain rfl := same
  rfl
