import Calculator.Arithmetic
import Calculator.Number.Grammar
import Mathlib

namespace Calculator

open Float.Model Float.Model.UnpackedFloat

/-- The sign of a double is a part of its pattern of its own. -/
theorem neg_unpack_packComponents {spec : Format} (s : Sign) (e : BitVec spec.exponentBits)
    (m : BitVec spec.mantissaBitsWithoutImplicit) :
    (UnpackedFloat.unpack spec (packComponents spec s e m)).neg =
      UnpackedFloat.unpack spec (packComponents spec (-s) e m) := by
  simp only [UnpackedFloat.unpack, unpackSign_packComponents, unpackExponent_packComponents,
    unpackMantissa_packComponents, Sign.ofBitVec_toBitVec]
  split_ifs <;> rfl

/-- A sign that is turned twice is the same sign, and there is one pattern only for what is not a
number. -/
theorem pack_neg_pack_neg {b : BitVec Format.binary64.numBits} (valid : Format.binary64.Valid b) :
    UnpackedFloat.pack .binary64 (UnpackedFloat.unpack .binary64
      (UnpackedFloat.pack .binary64 (UnpackedFloat.unpack .binary64 b).neg)).neg = b := by
  obtain ⟨s, e, m, rfl⟩ : ∃ s e m, b = packComponents .binary64 s e m :=
    ⟨_, _, _, (packComponents_unpackSign_unpackExponent_unpackMantissa b).symm⟩
  have anySign (t : Sign) : isNaNBits (packComponents .binary64 t e m) =
      isNaNBits (packComponents .binary64 s e m) := by
    simp [isNaNBits]
  rw [neg_unpack_packComponents, pack_unpack _ (by decide), anySign]
  by_cases nan : isNaNBits (packComponents .binary64 s e m) = true
  · rw [if_pos nan, unpack_packedNaN]
    simp only [isNaNBits, decide_eq_true_eq] at nan
    exact (valid.eq_packedNaN nan.1 nan.2).symm
  · rw [if_neg nan, neg_unpack_packComponents, pack_unpack _ (by decide), anySign, if_neg nan]
    cases s <;> rfl

/-- Negating a double twice gives it back, the signed zeros, the infinities and what is not a number
among them. -/
theorem negate_negate (x : Float) : Arithmetic.negate (Arithmetic.negate x) = x := by
  apply Float.toBits_inj.1
  apply UInt64.toBitVec_inj.1
  exact pack_neg_pack_neg x.toModel.valid

/-- The literals that have a value are the plain decimals. -/
class PlainLiterals (α : Type) [Arithmetic α] : Prop where
  isSome_literal_iff (t : Text) :
    (Arithmetic.literal t : Option α).isSome = true ↔ Decimal.IsPlain t

instance : PlainLiterals Float where
  isSome_literal_iff t := by
    rw [← Decimal.isSome_ofPlain?_iff]
    exact Bool.eq_iff_iff.1 Option.isSome_map

variable {α : Type} [Arithmetic α] [PlainLiterals α] {t : Text}

/-- What has a value is a plain decimal. -/
theorem isPlain_of_literal {x : α} (value : Arithmetic.literal t = some x) : Decimal.IsPlain t :=
  (PlainLiterals.isSome_literal_iff (α := α) t).1 (by rw [value]; rfl)

theorem not_isPlain_of_literal (valueless : (Arithmetic.literal t : Option α) = none) :
    ¬ Decimal.IsPlain t := by
  rw [← PlainLiterals.isSome_literal_iff (α := α), valueless]
  exact Bool.false_ne_true

variable (α) in
theorem exists_literal (plain : Decimal.IsPlain t) : ∃ x : α, Arithmetic.literal t = some x :=
  Option.isSome_iff_exists.1 ((PlainLiterals.isSome_literal_iff t).2 plain)

end Calculator
