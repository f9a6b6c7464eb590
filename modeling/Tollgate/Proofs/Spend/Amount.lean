import Tollgate.Config.Violation
import Tollgate.Spend.Micros

/-!
What the arithmetic of money keeps. An amount that may stand for money is worth
no less than nothing in micro-units, however it is rounded, and at most what a
word holds.
-/

namespace Tollgate

open Float.Model

namespace Micros

/-! Saturation -/

theorem greatest_nonneg : 0 ≤ greatest := by decide

theorem saturate_eq_of_nonneg {n : Int} (nonneg : 0 ≤ n) :
    saturate n = min n greatest := by
  unfold saturate least
  rw [if_neg (by omega)]
  split <;> omega

theorem saturate_nonneg {n : Int} (nonneg : 0 ≤ n) : 0 ≤ saturate n := by
  have top := greatest_nonneg
  rw [saturate_eq_of_nonneg nonneg]
  omega

theorem add_eq_of_nonneg {a b : Int} (first : 0 ≤ a) (second : 0 ≤ b) :
    add a b = min (a + b) greatest :=
  saturate_eq_of_nonneg (by omega)

theorem max_sub_of_nonneg {a b : Int} (second : 0 ≤ b) (high : a ≤ greatest) :
    max 0 (sub a b) = max 0 (a - b) := by
  have ends : least = -9223372036854775808 := rfl
  by_cases low : least ≤ a - b
  · rw [sub, saturate_of_mem low (by omega)]
  · have cut : sub a b = least := by
      unfold sub saturate
      rw [if_pos (by omega)]
    omega

theorem sub_max_sub_le {a b : Int} (nonneg : 0 ≤ a) (high : a ≤ greatest)
    (lower : max 0 (sub a b) < a) : a - max 0 (sub a b) ≤ b := by
  by_cases off : 0 ≤ b
  · rw [max_sub_of_nonneg off high]
    omega
  · have grown : 0 ≤ a - b := by omega
    rw [sub, saturate_eq_of_nonneg grown] at lower
    omega

theorem round_le_greatest (x : Dyadic) : round x ≤ greatest := by
  have ends := least_le_greatest
  have top := greatest_nonneg
  cases x with
  | nan => exact top
  | infinite negative =>
      cases negative with
      | true => exact ends
      | false => exact Int.le_refl _
  | finite negative significand exponent => exact saturate_le_greatest _

theorem least_le_round (x : Dyadic) : least ≤ round x := by
  have ends := least_le_greatest
  have bottom : least ≤ 0 := by decide
  cases x with
  | nan => exact bottom
  | infinite negative =>
      cases negative with
      | true => exact Int.le_refl _
      | false => exact ends
  | finite negative significand exponent => exact least_le_saturate _

theorem ofAmount_le_greatest (amount : Float) : ofAmount amount ≤ greatest :=
  round_le_greatest _

theorem round_ofBits_nonneg {bits : Nat} (small : bits < Nat.pow 2 63) :
    0 ≤ round (Dyadic.ofBits bits) := by
  have sign : (bits / Nat.pow 2 63 % 2 == 1) = false := by
    rw [Nat.div_eq_of_lt small]
    rfl
  unfold Dyadic.ofBits
  simp only [sign]
  split
  · split
    · exact greatest_nonneg
    · exact Int.le_refl 0
  · split
    · exact saturate_nonneg (Int.natCast_nonneg _)
    · exact saturate_nonneg (Int.natCast_nonneg _)

end Micros

/-! Doubles by their parts -/

theorem packComponents_positive (exponent : BitVec 11) (mantissa : BitVec 52) :
    (UnpackedFloat.packComponents Format.binary64 .positive exponent
      mantissa).toNat < Nat.pow 2 63 := by
  have exponentFits : exponent.toNat <<< 52 < Nat.pow 2 63 := by
    have fits := exponent.isLt
    have small : exponent.toNat * 4503599627370496 < 9223372036854775808 := by
      omega
    rw [Nat.shiftLeft_eq]
    exact small
  have mantissaFits : mantissa.toNat < Nat.pow 2 63 :=
    Nat.lt_trans mantissa.isLt (by decide)
  change (0#1 ++ exponent ++ mantissa : BitVec 64).toNat < Nat.pow 2 63
  rw [BitVec.toNat_append, BitVec.toNat_append]
  simpa using Nat.or_lt_two_pow exponentFits mantissaFits

theorem pack_positive (significand : Nat) (exponent : Int)
    (positive : 0 < significand) :
    (UnpackedFloat.pack Format.binary64
      (.finite .positive significand exponent positive)).toNat <
        Nat.pow 2 63 := by
  delta UnpackedFloat.pack
  dsimp only
  split
  · exact packComponents_positive _ _
  · split
    · exact packComponents_positive _ _
    · exact packComponents_positive _ _

/-- A zero of either sign, or a positive number. -/
def IsUnsigned (parts : UnpackedFloat) : Prop :=
  (∃ sign, parts = .zero sign) ∨
    ∃ significand exponent positive,
      parts = .finite .positive significand exponent positive

theorem isUnsigned_of_isAmount {amount : Float} (accepted : isAmount amount) :
    IsUnsigned amount.toModel.unpack := by
  simp only [isAmount, Bool.and_eq_true, decide_eq_true_eq] at accepted
  obtain ⟨finite, notBelow⟩ := accepted
  replace finite : amount.toModel.unpack.isFinite = true := finite
  replace notBelow :
      (0 : Float).toModel.unpack.le amount.toModel.unpack = true :=
    of_decide_eq_true notBelow
  have zero : (0 : Float).toModel.unpack = .zero .positive := rfl
  rw [zero] at notBelow
  cases parts : amount.toModel.unpack with
  | notANumber =>
      rw [parts] at finite
      contradiction
  | infinity sign =>
      rw [parts] at finite
      contradiction
  | zero sign => exact .inl ⟨sign, rfl⟩
  | finite sign significand exponent positive =>
      cases sign with
      | positive => exact .inr ⟨significand, exponent, positive, rfl⟩
      | negative =>
          rw [parts] at notBelow
          contradiction

theorem isUnsigned_million : IsUnsigned (1000000.0 : Float).toModel.unpack :=
  .inr ⟨_, _, _, rfl⟩

theorem isUnsigned_roundWithAccuracy (significand : Nat) (exponent : Int)
    (accuracy : UnpackedFloat.Accuracy) :
    IsUnsigned (UnpackedFloat.roundWithAccuracy Format.binary64 .positive
      significand exponent accuracy) := by
  delta UnpackedFloat.roundWithAccuracy
  by_cases gone : (UnpackedFloat.shiftToTargetExponent Format.binary64
      (UnpackedFloat.shiftToTargetExponent Format.binary64 significand exponent
        accuracy).1.roundedMantissa
      (UnpackedFloat.shiftToTargetExponent Format.binary64 significand exponent
        accuracy).2 .exact).1.mantissa = 0
  · exact .inl ⟨_, dif_pos gone⟩
  · exact .inr ⟨_, _, _, dif_neg gone⟩

theorem IsUnsigned.mul {first second : UnpackedFloat}
    (left : IsUnsigned first) (right : IsUnsigned second) :
    IsUnsigned (UnpackedFloat.mul Format.binary64 first second) := by
  rcases left with ⟨sign, rfl⟩ | ⟨m, e, positive, rfl⟩
  · rcases right with ⟨other, rfl⟩ | ⟨n, f, above, rfl⟩
    · exact .inl ⟨_, rfl⟩
    · exact .inl ⟨_, rfl⟩
  · rcases right with ⟨other, rfl⟩ | ⟨n, f, above, rfl⟩
    · exact .inl ⟨_, rfl⟩
    · exact isUnsigned_roundWithAccuracy _ _ _

theorem IsUnsigned.round_nonneg {parts : UnpackedFloat}
    (unsigned : IsUnsigned parts) :
    0 ≤ Micros.round (Dyadic.ofBits
      (UnpackedFloat.pack Format.binary64 parts).toNat) := by
  rcases unsigned with ⟨sign, rfl⟩ | ⟨m, e, positive, rfl⟩
  · cases sign with
    | positive => decide +kernel
    | negative => decide +kernel
  · exact Micros.round_ofBits_nonneg (pack_positive m e positive)

theorem Micros.ofAmount_nonneg {amount : Float} (accepted : isAmount amount) :
    0 ≤ ofAmount amount :=
  ((isUnsigned_of_isAmount accepted).mul isUnsigned_million).round_nonneg

end Tollgate
