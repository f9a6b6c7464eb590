import Mathlib.Algebra.Order.Ring.Nat
import Tollgate.Number.Dyadic

/-!
How doubles are rounded, as far as positive normal numbers go. Bits that are
shifted out of a mantissa leave a trace that tells whether they came to more
than half a unit, and rounding goes by that.
-/

namespace Tollgate.Rounding
open Float.Model Float.Model.UnpackedFloat

/-! Shifting right -/

def whole (m : Nat) : ExtendedMantissa :=
  .ofMantissaAndAccuracy m .exact

theorem shiftRight_mantissa (em : ExtendedMantissa) (n : Nat) :
    (em >>> n).mantissa = em.mantissa / 2 ^ n := by
  induction n with
  | zero => exact (Nat.div_one _).symm
  | succ n ih =>
      change (em >>> n).mantissa / 2 = _
      rw [ih, Nat.div_div_eq_div_mul, Nat.pow_succ]

theorem mantissa_le_rounded (em : ExtendedMantissa) :
    em.mantissa ≤ em.roundedMantissa := by
  obtain ⟨m, round, sticky⟩ := em
  cases round <;> cases sticky
  · exact Nat.le_refl _
  · exact Nat.le_refl _
  · exact Nat.le_add_right _ _
  · exact Nat.le_add_right _ _

theorem rounded_le_mantissa_succ (em : ExtendedMantissa) :
    em.roundedMantissa ≤ em.mantissa + 1 := by
  obtain ⟨m, round, sticky⟩ := em
  cases round <;> cases sticky
  · exact Nat.le_add_right _ _
  · exact Nat.le_add_right _ _
  · exact Nat.add_le_add_left (Nat.le_of_lt_succ (Nat.mod_lt _ (by decide))) _
  · exact Nat.le_refl _

theorem residue_shiftRight (m n : Nat) :
    ((whole m >>> n).roundBit || (whole m >>> n).stickyBit) =
      decide (m % 2 ^ n ≠ 0) := by
  induction n with
  | zero =>
      rw [Nat.pow_zero, Nat.mod_one]
      rfl
  | succ n ih =>
      change ((whole m >>> n).mantissa % 2 != 0 ||
        ((whole m >>> n).roundBit || (whole m >>> n).stickyBit)) = _
      rw [ih, shiftRight_mantissa, Nat.mod_pow_succ]
      change (m / 2 ^ n % 2 != 0 || _) = _
      have positive : 0 < 2 ^ n := Nat.two_pow_pos n
      rcases Nat.mod_two_eq_zero_or_one (m / 2 ^ n) with even | odd
      · simp [even]
      · simp [odd]

theorem rounded_of_exact {m n : Nat} (exact : m % 2 ^ n = 0) :
    (whole m >>> n).roundedMantissa = m / 2 ^ n := by
  have mantissa := shiftRight_mantissa (whole m) n
  have residue := residue_shiftRight m n
  generalize whole m >>> n = em at mantissa residue
  obtain ⟨rest, round, sticky⟩ := em
  simp only [exact, ne_eq, not_true_eq_false, decide_false,
    Bool.or_eq_false_iff] at residue
  obtain ⟨rfl, rfl⟩ := residue
  exact mantissa

theorem rounded_of_half_lt {m n : Nat} (half : 2 ^ n < m % 2 ^ (n + 1)) :
    (whole m >>> (n + 1)).roundedMantissa = m / 2 ^ (n + 1) + 1 := by
  have mantissa := shiftRight_mantissa (whole m) (n + 1)
  have residue := residue_shiftRight m n
  have before := shiftRight_mantissa (whole m) n
  have next : whole m >>> (n + 1) = (whole m >>> n).shiftRightOne := rfl
  rw [Nat.mod_pow_succ] at half
  have below : m % 2 ^ n < 2 ^ n := Nat.mod_lt _ (Nat.two_pow_pos n)
  have odd : m / 2 ^ n % 2 = 1 := by
    rcases Nat.mod_two_eq_zero_or_one (m / 2 ^ n) with even | odd
    · rw [even] at half
      omega
    · exact odd
  rw [odd] at half
  rw [next] at mantissa ⊢
  generalize whole m >>> n = em at mantissa residue before
  obtain ⟨rest, round, sticky⟩ := em
  have odd : rest % 2 = 1 := by
    rw [show rest = m / 2 ^ n from before, odd]
  have some : m % 2 ^ n ≠ 0 := by omega
  simp only [some, ne_eq, not_false_eq_true, decide_true] at residue
  simp only [ExtendedMantissa.shiftRightOne, residue, odd,
    ExtendedMantissa.roundedMantissa] at mantissa ⊢
  exact congrArg (· + 1) mantissa

/-! Rounding -/

/-- What a mantissa is rounded to where fifty-three bits are kept. -/
def kept (m : Nat) (accuracy : Accuracy) : Nat :=
  (ExtendedMantissa.ofMantissaAndAccuracy m accuracy >>>
    (m.log2 - 52)).roundedMantissa

theorem targetExponent_eq {m : Nat} {e : Int} (enough : 52 ≤ m.log2)
    (low : -1074 ≤ e) :
    Format.binary64.targetExponent (totalExponent m e) =
      e + (m.log2 - 52 : Nat) := by
  have bottom : Format.binary64.minExponent = -1074 := rfl
  have bits : Format.binary64.mantissaBits = 53 := rfl
  simp only [Format.targetExponent, totalExponent, bottom, bits]
  omega

theorem shiftToTargetExponent_eq {m : Nat} {e : Int} (accuracy : Accuracy)
    (enough : 52 ≤ m.log2) (low : -1074 ≤ e) :
    shiftToTargetExponent Format.binary64 m e accuracy =
      (ExtendedMantissa.ofMantissaAndAccuracy m accuracy >>> (m.log2 - 52),
        e + (m.log2 - 52 : Nat)) := by
  have shift : (e + (m.log2 - 52 : Nat) - e).toNat = m.log2 - 52 := by omega
  simp only [shiftToTargetExponent, targetExponent_eq enough low,
    shiftToExponent, shift]

theorem le_log2_of_le {m k : Nat} (enough : 2 ^ k ≤ m) : k ≤ m.log2 := by
  have positive : m ≠ 0 := by
    have some := Nat.two_pow_pos k
    omega
  exact (Nat.le_log2 positive).mpr enough

theorem log2_eq_of_mem {m k : Nat} (low : 2 ^ k ≤ m) (high : m < 2 ^ (k + 1)) :
    m.log2 = k := by
  have positive : m ≠ 0 := by
    have some := Nat.two_pow_pos k
    omega
  have below := (Nat.log2_lt positive).mpr high
  have above := le_log2_of_le low
  omega

theorem kept_bounds (m : Nat) (accuracy : Accuracy) :
    m / 2 ^ (m.log2 - 52) ≤ kept m accuracy ∧
      kept m accuracy ≤ m / 2 ^ (m.log2 - 52) + 1 := by
  have mantissa : (ExtendedMantissa.ofMantissaAndAccuracy m accuracy >>>
      (m.log2 - 52)).mantissa = m / 2 ^ (m.log2 - 52) := by
    rw [shiftRight_mantissa]
    cases accuracy with
    | exact => rfl
    | inexact order => cases order <;> rfl
  rw [← mantissa]
  exact ⟨mantissa_le_rounded _, rounded_le_mantissa_succ _⟩

/-- Fifty-three bits are kept, or there was a carry into one more. -/
theorem kept_mem {m : Nat} (enough : 2 ^ 52 ≤ m) (accuracy : Accuracy) :
    2 ^ 52 ≤ kept m accuracy ∧ kept m accuracy ≤ 2 ^ 53 := by
  have bits := le_log2_of_le enough
  have positive : m ≠ 0 := by omega
  have low : 2 ^ 52 ≤ m / 2 ^ (m.log2 - 52) := by
    rw [Nat.le_div_iff_mul_le (Nat.two_pow_pos _), ← Nat.pow_add,
      Nat.add_sub_cancel' bits]
    exact Nat.log2_self_le positive
  have high : m / 2 ^ (m.log2 - 52) < 2 ^ 53 := by
    rw [Nat.div_lt_iff_lt_mul (Nat.two_pow_pos _), ← Nat.pow_add,
      show 53 + (m.log2 - 52) = m.log2 + 1 by omega]
    exact Nat.lt_log2_self
  obtain ⟨least, most⟩ := kept_bounds m accuracy
  omega

/-- The parts are those of a positive normal number, which is worth `r * 2 ^ e`
as it is or after a carry. -/
inductive Comes (r : Nat) (e : Int) : UnpackedFloat → Prop where
  | asIs (low : 2 ^ 52 ≤ r) (high : r < 2 ^ 53) (positive : 0 < r) :
      Comes r e (.finite .positive r e positive)
  | carried (full : r = 2 ^ 53) (positive : 0 < 2 ^ 52) :
      Comes r e (.finite .positive (2 ^ 52) (e + 1) positive)

theorem finite_congr {m n : Nat} {e f : Int} (significands : m = n)
    (exponents : e = f) (first : 0 < m) (second : 0 < n) :
    finite .positive m e first = finite .positive n f second := by
  subst significands exponents
  rfl

theorem roundWithAccuracy_comes {m : Nat} {e : Int} (accuracy : Accuracy)
    (enough : 2 ^ 52 ≤ m) (low : -1074 ≤ e) :
    Comes (kept m accuracy) (e + (m.log2 - 52 : Nat))
      (roundWithAccuracy Format.binary64 .positive m e accuracy) := by
  obtain ⟨least, most⟩ := kept_mem enough accuracy
  have first := shiftToTargetExponent_eq accuracy (le_log2_of_le enough) low
  have second := shiftToTargetExponent_eq (m := kept m accuracy)
    (e := e + (m.log2 - 52 : Nat)) .exact (le_log2_of_le least) (by omega)
  have result : roundWithAccuracy Format.binary64 .positive m e accuracy =
      if h : (shiftToTargetExponent Format.binary64 (kept m accuracy)
          (e + (m.log2 - 52 : Nat)) .exact).1.mantissa = 0 then .zero .positive
      else .finite .positive _ (shiftToTargetExponent Format.binary64
        (kept m accuracy) (e + (m.log2 - 52 : Nat)) .exact).2
          (Nat.pos_of_ne_zero h) := by
    delta roundWithAccuracy
    rw [first]
    rfl
  rw [result, second]
  dsimp only
  rcases Nat.lt_or_eq_of_le most with fits | full
  · have bits := log2_eq_of_mem least fits
    have positive : 0 < kept m accuracy := by omega
    have still : (ExtendedMantissa.ofMantissaAndAccuracy (kept m accuracy)
        .exact >>> ((kept m accuracy).log2 - 52)).mantissa =
          kept m accuracy := by
      rw [bits]
      rfl
    have same : e + (m.log2 - 52 : Nat) +
        ((kept m accuracy).log2 - 52 : Nat) = e + (m.log2 - 52 : Nat) := by
      omega
    rw [dif_neg (by omega), finite_congr still same _ positive]
    exact .asIs least fits positive
  · have half : (ExtendedMantissa.ofMantissaAndAccuracy (kept m accuracy)
        .exact >>> ((kept m accuracy).log2 - 52)).mantissa = 2 ^ 52 := by
      rw [full]
      decide +kernel
    have one : (kept m accuracy).log2 - 52 = 1 := by
      rw [full]
      decide +kernel
    rw [dif_neg (by omega), finite_congr half (by rw [one]) _ (by decide)]
    exact .carried full (by decide)

/-! Packing -/

theorem pack_normal {m : Nat} {e : Int} (low : 2 ^ 52 ≤ m) (high : m < 2 ^ 53)
    (most : e ≤ 971) (positive : 0 < m) :
    UnpackedFloat.pack Format.binary64 (.finite .positive m e positive) =
      packComponents Format.binary64 .positive
        (BitVec.ofNat 11 (e + 1075).toNat) (BitVec.ofNat 52 m) := by
  have bits : m.log2 + 1 = Format.binary64.mantissaBits := by
    rw [log2_eq_of_mem low high]
    rfl
  have biased : e + Format.binary64.exponentBias +
      Format.binary64.mantissaBitsWithoutImplicit = e + 1075 := by
    change e + 1023 + 52 = e + 1075
    omega
  have fits : ¬ 2 ^ Format.binary64.exponentBits ≤ (e + 1075).toNat + 1 := by
    change ¬ 2048 ≤ _
    omega
  delta UnpackedFloat.pack
  dsimp only
  rw [biased, if_neg fits, if_pos bits]

theorem toNat_packComponents (exponent : BitVec 11) (mantissa : BitVec 52) :
    (packComponents Format.binary64 .positive exponent mantissa).toNat =
      exponent.toNat * 2 ^ 52 + mantissa.toNat := by
  change (0#1 ++ exponent ++ mantissa : BitVec 64).toNat = _
  rw [BitVec.toNat_append, ← Nat.shiftLeft_add_eq_or_of_lt mantissa.isLt,
    Nat.shiftLeft_eq, BitVec.toNat_append]
  simp

theorem ofBits_pack {m : Nat} {e : Int} (low : 2 ^ 52 ≤ m) (high : m < 2 ^ 53)
    (least : -1074 ≤ e) (most : e ≤ 971) (positive : 0 < m) :
    Dyadic.ofBits (UnpackedFloat.pack Format.binary64
      (.finite .positive m e positive)).toNat = .finite false m e := by
  rw [pack_normal low high most positive, toNat_packComponents]
  simp only [BitVec.toNat_ofNat]
  have exponent : (e + 1075).toNat % 2 ^ 11 = (e + 1075).toNat := by omega
  have fraction : m % 2 ^ 52 = m - 2 ^ 52 := by omega
  rw [exponent, fraction]
  unfold Dyadic.ofBits
  simp only [Nat.pow_eq]
  have sign : (((e + 1075).toNat * 2 ^ 52 + (m - 2 ^ 52)) / 2 ^ 63 % 2 == 1) =
      false := by
    rw [beq_eq_false_iff_ne]
    omega
  have biased : ((e + 1075).toNat * 2 ^ 52 + (m - 2 ^ 52)) / 2 ^ 52 % 2 ^ 11 =
      (e + 1075).toNat := by omega
  have rest : ((e + 1075).toNat * 2 ^ 52 + (m - 2 ^ 52)) % 2 ^ 52 =
      m - 2 ^ 52 := by omega
  have significand : 2 ^ 52 + (m - 2 ^ 52) = m := by omega
  have unbiased : Int.ofNat (e + 1075).toNat - 1075 = e := by
    rw [Int.ofNat_eq_natCast]
    omega
  have notLast : (e + 1075).toNat ≠ 2047 := by omega
  have notFirst : (e + 1075).toNat ≠ 0 := by omega
  rw [sign, biased, rest, if_neg notLast, if_neg notFirst, significand,
    unbiased]

theorem unpack_of_normal {b : BitVec Format.binary64.numBits}
    (notLast : unpackExponent b ≠ -1#11) (notFirst : unpackExponent b ≠ 0#11) :
    ∃ positive, UnpackedFloat.unpack Format.binary64 b =
      .finite (.ofBitVec (unpackSign b)) (1#1 ++ unpackMantissa b).toNat
        ((unpackExponent b).toNat - 1075) positive := by
  delta UnpackedFloat.unpack
  dsimp only
  rw [if_neg notLast, if_neg notFirst]
  exact ⟨_, rfl⟩

theorem unpackSign_positive (exponent : BitVec 11)
    (mantissa : BitVec 52) :
    unpackSign (packComponents Format.binary64 .positive exponent mantissa) =
      0#1 := by
  apply BitVec.eq_of_toNat_eq
  change (packComponents Format.binary64 .positive exponent mantissa).toNat
    >>> 63 % 2 = 0
  rw [toNat_packComponents, Nat.shiftRight_eq_div_pow]
  have first := exponent.isLt
  have second := mantissa.isLt
  omega

theorem unpack_pack {m : Nat} {e : Int} (low : 2 ^ 52 ≤ m) (high : m < 2 ^ 53)
    (least : -1074 ≤ e) (most : e ≤ 971) (positive : 0 < m) :
    UnpackedFloat.unpack Format.binary64 (UnpackedFloat.pack Format.binary64
      (.finite .positive m e positive)) = .finite .positive m e positive := by
  rw [pack_normal low high most positive]
  have biased : (BitVec.ofNat 11 (e + 1075).toNat).toNat =
      (e + 1075).toNat := by
    rw [BitVec.toNat_ofNat]
    omega
  have notLast : BitVec.ofNat 11 (e + 1075).toNat ≠ -1#11 := by
    intro last
    have same := congrArg BitVec.toNat last
    rw [biased] at same
    change _ = 2047 at same
    omega
  have notFirst : BitVec.ofNat 11 (e + 1075).toNat ≠ 0#11 := by
    intro first
    have same := congrArg BitVec.toNat first
    rw [biased] at same
    change _ = 0 at same
    omega
  have whole : (1#1 ++ BitVec.ofNat 52 m).toNat = m := by
    rw [BitVec.toNat_append, ← Nat.shiftLeft_add_eq_or_of_lt (BitVec.isLt _),
      BitVec.toNat_ofNat]
    change 1 <<< 52 + m % 2 ^ 52 = m
    rw [Nat.shiftLeft_eq]
    omega
  have unbiased : ((BitVec.ofNat 11 (e + 1075).toNat).toNat : Int) - 1075 =
      e := by
    rw [biased]
    omega
  -- The bits are opaque from here on, or unification tries to work them out.
  generalize BitVec.ofNat 11 (e + 1075).toNat = exponent at *
  generalize BitVec.ofNat 52 m = mantissa at *
  have apart : unpackExponent (packComponents Format.binary64 .positive exponent
      mantissa) = exponent := unpackExponent_packComponents
  have fraction : unpackMantissa (packComponents Format.binary64 .positive
      exponent mantissa) = mantissa := unpackMantissa_packComponents
  have sign := unpackSign_positive exponent mantissa
  generalize packComponents Format.binary64 .positive exponent mantissa = b at *
  rw [← apart] at notLast notFirst unbiased
  rw [← fraction] at whole
  obtain ⟨some, read⟩ := unpack_of_normal notLast notFirst
  rw [read, sign]
  exact finite_congr whole unbiased some positive

/-- The double is `m * 2 ^ e`, a positive normal number. -/
structure Normal (x : Float) (m : Nat) (e : Int) : Prop where
  low : 2 ^ 52 ≤ m
  high : m < 2 ^ 53
  unpacked : ∃ positive, x.toModel.unpack = .finite .positive m e positive
  dyadic : Dyadic.ofFloat x = .finite false m e

theorem normal_pack {m : Nat} {e : Int} (low : 2 ^ 52 ≤ m) (high : m < 2 ^ 53)
    (least : -1074 ≤ e) (most : e ≤ 971) (positive : 0 < m) :
    Normal (.ofModel (.pack (.finite .positive m e positive))) m e where
  low := low
  high := high
  unpacked := ⟨positive, unpack_pack low high least most positive⟩
  dyadic := ofBits_pack low high least most positive

theorem Comes.normal {r k : Nat} {parts : UnpackedFloat}
    (comes : Comes r (-k) parts) (some : 0 < k) (few : k ≤ 1000) :
    ∃ m carry, carry ≤ 1 ∧ m * 2 ^ carry = r ∧
      Normal (.ofModel (.pack parts)) m (-(k - carry : Nat)) := by
  cases comes with
  | asIs low high positive =>
      refine ⟨r, 0, Nat.zero_le 1, Nat.mul_one r, ?_⟩
      rw [Nat.sub_zero]
      exact normal_pack low high (by omega) (by omega) positive
  | carried full positive =>
      have exponent : -(k : Int) + 1 = -(k - 1 : Nat) := by omega
      refine ⟨2 ^ 52, 1, Nat.le_refl 1, full.symm, ?_⟩
      rw [exponent]
      exact normal_pack (Nat.le_refl _) (by decide) (by omega) (by omega)
        positive

/-! Exact cases -/

theorem log2_mul_two_pow {m : Nat} (low : 2 ^ 52 ≤ m) (high : m < 2 ^ 53)
    (shift : Nat) : (m * 2 ^ shift).log2 = 52 + shift := by
  apply log2_eq_of_mem
  · rw [Nat.pow_add]
    exact Nat.mul_le_mul_right _ low
  · rw [Nat.add_right_comm, Nat.pow_add]
    exact Nat.mul_lt_mul_of_pos_right high (Nat.two_pow_pos shift)

theorem roundWithAccuracy_exact {m : Nat} {e : Int} (low : 2 ^ 52 ≤ m)
    (high : m < 2 ^ 53) (shift : Nat) (least : -1074 ≤ e - shift)
    (positive : 0 < m) :
    roundWithAccuracy Format.binary64 .positive (m * 2 ^ shift) (e - shift)
      .exact = .finite .positive m e positive := by
  have bits := log2_mul_two_pow low high shift
  have dropped : (m * 2 ^ shift).log2 - 52 = shift := by omega
  have same : kept (m * 2 ^ shift) .exact = m := by
    unfold kept
    rw [dropped]
    exact (rounded_of_exact (Nat.mul_mod_left _ _)).trans
      (Nat.mul_div_cancel _ (Nat.two_pow_pos shift))
  have enough : 2 ^ 52 ≤ m * 2 ^ shift :=
    Nat.le_trans low (Nat.le_mul_of_pos_right _ (Nat.two_pow_pos shift))
  have comes := roundWithAccuracy_comes .exact enough least
  rw [same, dropped, Int.sub_add_cancel] at comes
  generalize roundWithAccuracy Format.binary64 .positive (m * 2 ^ shift)
    (e - shift) .exact = parts at comes ⊢
  cases comes with
  | asIs => rfl
  | carried full => omega

theorem normalize_positive {m : Nat} (positive : 0 < m) (e : Int) :
    UnpackedFloat.normalize Format.binary64 m e .positive =
      UnpackedFloat.round Format.binary64 .positive m e := by
  have above : compare (m : Int) 0 = .gt :=
    Int.compare_eq_gt.mpr (Int.natCast_pos.mpr positive)
  unfold UnpackedFloat.normalize
  rw [above]
  rfl

theorem round_eq {m shift : Nat} {e : Int}
    (aimed : (e - Format.binary64.targetExponent (totalExponent m e)).toNat =
      shift) :
    UnpackedFloat.round Format.binary64 .positive m e =
      roundWithAccuracy Format.binary64 .positive (m * 2 ^ shift) (e - shift)
        .exact := by
  subst aimed
  rw [← Nat.shiftLeft_eq]
  rfl

theorem significand_mem {n : Nat} (some : 0 < n) (bits : n.log2 ≤ 52) :
    2 ^ 52 ≤ n * 2 ^ (52 - n.log2) ∧ n * 2 ^ (52 - n.log2) < 2 ^ 53 := by
  have room : n.log2 + (52 - n.log2) = 52 := by omega
  constructor
  · calc 2 ^ 52 = 2 ^ n.log2 * 2 ^ (52 - n.log2) := by rw [← Nat.pow_add, room]
      _ ≤ n * 2 ^ (52 - n.log2) :=
        Nat.mul_le_mul_right _ (Nat.log2_self_le (Nat.ne_of_gt some))
  · calc n * 2 ^ (52 - n.log2) < 2 ^ (n.log2 + 1) * 2 ^ (52 - n.log2) :=
          Nat.mul_lt_mul_of_pos_right Nat.lt_log2_self (Nat.two_pow_pos _)
      _ = 2 ^ 53 := by rw [← Nat.pow_add, Nat.add_right_comm, room]

theorem unpackedOfNat_eq {n : Nat} (some : 0 < n) (bits : n.log2 ≤ 52)
    (positive : 0 < n * 2 ^ (52 - n.log2)) :
    UnpackedFloat.ofNat Format.binary64 n =
      .finite .positive (n * 2 ^ (52 - n.log2)) (n.log2 - 52) positive := by
  obtain ⟨low, high⟩ := significand_mem some bits
  have target : Format.binary64.targetExponent (totalExponent n 0) =
      n.log2 - 52 := by
    change max ((n.log2 : Int) + 1 + 0 - 53) (-1074) = _
    omega
  have shift : (0 - Format.binary64.targetExponent
      (totalExponent n 0)).toNat = 52 - n.log2 := by omega
  have exponent : (0 : Int) - (52 - n.log2 : Nat) =
      n.log2 - 52 - (0 : Nat) := by omega
  have exact := roundWithAccuracy_exact (e := n.log2 - 52) low high 0
    (by omega) positive
  rw [Nat.pow_zero, Nat.mul_one, ← exponent, ← round_eq shift] at exact
  exact (normalize_positive some 0).trans exact

theorem normal_ofNat {n : Nat} (some : 0 < n) (fits : n < 2 ^ 53) :
    Normal (Float.ofNat n) (n * 2 ^ (52 - n.log2)) (n.log2 - 52) := by
  have bits : n.log2 ≤ 52 := by
    have below := (Nat.log2_lt (Nat.ne_of_gt some)).mpr fits
    omega
  obtain ⟨low, high⟩ := significand_mem some bits
  have positive : 0 < n * 2 ^ (52 - n.log2) := by omega
  have word : n.toUInt64.toNat = n := Nat.mod_eq_of_lt (by omega)
  have read : n.toUInt64.toFloat.toModel.unpack =
      .finite .positive (n * 2 ^ (52 - n.log2)) (n.log2 - 52) positive := by
    change (Float.Model.pack (UnpackedFloat.ofNat Format.binary64
      n.toUInt64.toNat)).unpack = _
    rw [word, unpackedOfNat_eq some bits positive]
    exact unpack_pack low high (by omega) (by omega) positive
  have one : (Float.ofBits 0x3FF0000000000000).toModel.unpack =
      .finite .positive (2 ^ 52) (-52) (by decide) := rfl
  -- A literal without a point is a product with the first power of ten.
  have made : Float.ofNat n = .ofModel (.pack (.finite .positive
      (n * 2 ^ (52 - n.log2)) (n.log2 - 52) positive)) := by
    change Float.ofScientific n false 0 = _
    unfold Float.ofScientific
    rw [dif_pos ⟨fits, by decide⟩]
    change Float.ofModel (.pack (UnpackedFloat.mul Format.binary64
      n.toUInt64.toFloat.toModel.unpack
      (Float.ofBits 0x3FF0000000000000).toModel.unpack)) = _
    rw [read, one]
    exact congrArg (fun parts => Float.ofModel (.pack parts))
      (roundWithAccuracy_exact low high 52 (by omega) positive)
  rw [made]
  exact normal_pack low high (by omega) (by omega) positive

/-! Sums -/

theorem add_finite {m n : Nat} {e f : Int} (first : 0 < m) (second : 0 < n) :
    UnpackedFloat.add Format.binary64 (.finite .positive m e first)
        (.finite .positive n f second) =
      UnpackedFloat.normalize Format.binary64
        ((decreaseExponent m e (min e f)).1 +
          (decreaseExponent n f (min e f)).1 : Nat) (min e f) .positive := rfl

theorem round_of_enough {m : Nat} {e : Int} (enough : 2 ^ 52 ≤ m)
    (low : -1074 ≤ e) :
    UnpackedFloat.round Format.binary64 .positive m e =
      roundWithAccuracy Format.binary64 .positive m e .exact := by
  have target := targetExponent_eq (le_log2_of_le enough) low
  have shift : (e - Format.binary64.targetExponent
      (totalExponent m e)).toNat = 0 := by omega
  rw [round_eq shift, Nat.pow_zero, Nat.mul_one, Int.natCast_zero, Int.sub_zero]

end Tollgate.Rounding
