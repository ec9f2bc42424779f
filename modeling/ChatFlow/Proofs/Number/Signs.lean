import Mathlib
import ChatFlow.Number.Binary

/-!
# Floats without a minus sign

What is counted in floats, such as the seconds of a delay, is not negative if no float on the way
has a minus sign. A float that fails the test for being zero or less has none
(`hasNoSign_of_not_le`), and neither have the numbers that are written without one, nor products and
quotients of such floats. The only float that is no number has no sign either, so nothing has to be
known of its place in the order.

A sign is read off the highest bit. `isUnsigned_unpack` and `IsUnsigned.msb_pack` carry it over to
the unpacked floats, for which arithmetic is defined.
-/

namespace ChatFlow

open Float.Model Float.Model.UnpackedFloat

/-! ## Unpacked floats -/

/-- Whether an unpacked float has no minus sign. -/
def IsUnsigned : UnpackedFloat → Prop
  | .notANumber => True
  | .infinity sign | .zero sign | .finite sign .. => sign = .positive

theorem isUnsigned_roundWithAccuracy (spec : Format) (mantissa : Nat) (exponent : Int)
    (accuracy : Accuracy) :
    IsUnsigned (roundWithAccuracy spec .positive mantissa exponent accuracy) := by
  unfold roundWithAccuracy
  dsimp only
  split <;> rfl

namespace IsUnsigned

variable {a b : UnpackedFloat}

theorem mul (ha : IsUnsigned a) (hb : IsUnsigned b) (spec : Format) :
    IsUnsigned (UnpackedFloat.mul spec a b) := by
  cases a <;> cases b <;> cases ha <;> cases hb
  all_goals first | trivial | rfl | exact isUnsigned_roundWithAccuracy ..

theorem div (ha : IsUnsigned a) (hb : IsUnsigned b) (spec : Format) :
    IsUnsigned (UnpackedFloat.div spec a b) := by
  cases a <;> cases b <;> cases ha <;> cases hb
  all_goals first | trivial | rfl | exact isUnsigned_roundWithAccuracy ..

theorem ofScientific (spec : Format) (m : Nat) (e : Int) :
    IsUnsigned (UnpackedFloat.ofScientific spec m e) := by
  have hfinite (mantissa : Nat) (exponent : Int) (h : 0 < mantissa) :
      IsUnsigned (.finite .positive mantissa exponent h) := rfl
  unfold UnpackedFloat.ofScientific
  repeat' split
  · rfl
  · rfl
  · rfl
  · exact (hfinite ..).mul (hfinite ..) spec
  · exact (hfinite ..).div (hfinite ..) spec

/-- Without a minus sign, the highest bit is clear. -/
theorem msb_pack (ha : IsUnsigned a) (spec : Format) :
    (UnpackedFloat.pack spec a).msb = false := by
  have hcomponents (exponent) (mantissa) :
      (packComponents spec .positive exponent mantissa).msb = false := by
    simp [packComponents, BitVec.msb_append, Sign.toBitVec]
  cases a with
  | notANumber => exact hcomponents _ _
  | infinity => cases ha; exact hcomponents _ _
  | zero => cases ha; exact hcomponents _ _
  | finite =>
    cases ha
    unfold UnpackedFloat.pack
    dsimp only
    repeat' split
    all_goals exact hcomponents _ _

end IsUnsigned

theorem ofBitVec_unpackSign {spec : Format} (bits : BitVec spec.numBits) :
    Sign.ofBitVec (unpackSign bits) = if bits.msb then .negative else .positive := by
  have hbit : unpackSign bits = BitVec.ofBool bits.msb := by
    ext i hi
    obtain rfl : i = 0 := by omega
    have hlast : spec.numBits - 1 = spec.mantissaBitsWithoutImplicit + spec.exponentBits := by
      simp only [Format.numBits]
      omega
    simp [unpackSign, BitVec.msb_eq_getLsbD_last, hlast]
  rw [hbit]
  cases bits.msb <;> rfl

/-- If the highest bit is clear, there is no minus sign. -/
theorem isUnsigned_unpack {spec : Format} {bits : BitVec spec.numBits} (h : bits.msb = false) :
    IsUnsigned (UnpackedFloat.unpack spec bits) := by
  have hsign : Sign.ofBitVec (unpackSign bits) = .positive := by
    rw [ofBitVec_unpackSign, h]
    rfl
  unfold UnpackedFloat.unpack
  dsimp only
  repeat' split
  · exact hsign
  · trivial
  · exact hsign
  · exact hsign
  · exact hsign

/-- If the highest bit is set, the float is zero or less, since it is not the one that is no
number. -/
theorem unpack_le_zero {spec : Format} {bits : BitVec spec.numBits} (hvalid : spec.Valid bits)
    (h : bits.msb = true) : (UnpackedFloat.unpack spec bits).le (.zero .positive) = true := by
  have hsign : Sign.ofBitVec (unpackSign bits) = .negative := by
    rw [ofBitVec_unpackSign, h]
    rfl
  unfold UnpackedFloat.unpack
  dsimp only
  rw [hsign]
  split
  · split
    · rfl
    · next hexponent hmantissa =>
      have hclear : (packedNaN spec).msb = false :=
        IsUnsigned.msb_pack (a := .notANumber) trivial spec
      rw [hvalid.eq_packedNaN hexponent hmantissa, hclear] at h
      cases h
  · split
    · split
      · rfl
      · rfl
    · rfl

/-! ## Floats -/

/-- Whether the sign bit of a float is clear. -/
def HasNoSign (x : Float) : Prop :=
  x.toBits.toNat < wordEnd

theorem hasNoSign_iff {x : Float} : HasNoSign x ↔ x.toModel.toBits.toBitVec.msb = false := by
  rw [BitVec.msb_eq_false_iff_two_mul_lt]
  show x.toModel.toBits.toBitVec.toNat < 2 ^ 63 ↔ 2 * x.toModel.toBits.toBitVec.toNat < 2 ^ 64
  omega

theorem hasNoSign_pack {a : UnpackedFloat} (h : IsUnsigned a) :
    HasNoSign (.ofModel (Float.Model.pack a)) :=
  hasNoSign_iff.2 (h.msb_pack Format.binary64)

namespace HasNoSign

variable {x y : Float}

theorem isUnsigned (h : HasNoSign x) : IsUnsigned x.toModel.unpack :=
  isUnsigned_unpack (hasNoSign_iff.1 h)

theorem mul (hx : HasNoSign x) (hy : HasNoSign y) : HasNoSign (x * y) :=
  hasNoSign_pack (hx.isUnsigned.mul hy.isUnsigned _)

theorem div (hx : HasNoSign x) (hy : HasNoSign y) : HasNoSign (x / y) :=
  hasNoSign_pack (hx.isUnsigned.div hy.isUnsigned _)

end HasNoSign

theorem hasNoSign_toFloat (n : UInt64) : HasNoSign n.toFloat := by
  refine hasNoSign_pack ?_
  show IsUnsigned (UnpackedFloat.normalize Format.binary64 (n.toNat : Int) 0 .positive)
  unfold UnpackedFloat.normalize
  split
  · next hlt =>
    have := Int.compare_eq_lt.1 hlt
    omega
  · rfl
  · exact isUnsigned_roundWithAccuracy ..

theorem hasNoSign_powerOfTen :
    ∀ x ∈ Float.exactlyRepresentablePowersOfTen, x.toBits.toNat < wordEnd := by
  decide +kernel

/-- Numbers read from decimal digits have no sign. -/
theorem hasNoSign_ofScientific (m : Nat) (s : Bool) (e : Nat) :
    HasNoSign (Float.ofScientific m s e) := by
  unfold Float.ofScientific
  dsimp only
  split
  · split
    · exact (hasNoSign_toFloat _).div (hasNoSign_powerOfTen _ (Array.getElem_mem _))
    · exact (hasNoSign_toFloat _).mul (hasNoSign_powerOfTen _ (Array.getElem_mem _))
  · exact hasNoSign_pack (.ofScientific _ _ _)

theorem hasNoSign_ofNat (n : Nat) : HasNoSign (Float.ofNat n) :=
  hasNoSign_ofScientific n false 0

/-- A float is zero or less if it is so unpacked. -/
theorem le_zero_of_unpack {x : Float}
    (h : x.toModel.unpack.le (.zero .positive) = true) : x ≤ 0 := by
  have hzero : (0 : Float).toModel.unpack = .zero .positive := by rfl
  rw [← hzero] at h
  exact decide_eq_true h

/-- **A float that is not zero or less has no sign.** -/
theorem hasNoSign_of_not_le {x : Float} (h : ¬ x ≤ 0) : HasNoSign x := by
  rw [hasNoSign_iff, ← Bool.not_eq_true]
  exact fun hmsb => h (le_zero_of_unpack (unpack_le_zero x.toModel.valid hmsb))

theorem Binary.hasNoSign_toFloat {b : Binary} (h : b.negative = false) : HasNoSign b.toFloat := by
  unfold toFloat
  rw [h]
  dsimp only
  rw [if_neg (by simp)]
  split
  · exact hasNoSign_ofNat _
  · exact hasNoSign_ofScientific ..

theorem HasNoSign.negative_eq_false {x : Float} (h : HasNoSign x) {b : Binary}
    (hb : Binary.ofFloat? x = some b) : b.negative = false := by
  have hsign : decide (wordEnd ≤ x.toBits.toNat) = false := decide_eq_false (Nat.not_le_of_lt h)
  unfold Binary.ofFloat? at hb
  dsimp only at hb
  split at hb
  · cases hb
  · split at hb
    · cases hb; exact hsign
    · cases hb; exact hsign

end ChatFlow
