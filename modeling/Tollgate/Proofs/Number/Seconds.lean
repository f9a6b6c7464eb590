import Tollgate.Gate.Refusal
import Tollgate.Proofs.Number.Rounding

/-!
Durations in whole seconds, rounded up by way of a double. A nanosecond is more
than half of the last place of any number of seconds below `2 ^ 24`, so it is
not lost there; in longer durations it can be.
-/

namespace Tollgate

namespace Rounding

open Float.Model Float.Model.UnpackedFloat

/-! Nanoseconds in seconds -/

theorem unpack_billion :
    ∃ positive, (1000000000.0 : Float).toModel.unpack =
      .finite .positive 8388608000000000 (-23) positive :=
  ⟨by decide, rfl⟩

theorem divCore_billion {m : Nat} {e : Int} (low : 2 ^ 52 ≤ m)
    (high : m < 2 ^ 53) (least : -900 ≤ e) :
    divCore Format.binary64 m e 8388608000000000 (-23) =
      (m * 2 ^ 53 / 8388608000000000, e - 30,
        accuracyOfFraction (m * 2 ^ 53 % 8388608000000000)
          8388608000000000) := by
  have bits : m.log2 = 52 := log2_eq_of_mem low high
  have billion : Nat.log2 8388608000000000 = 52 := by decide +kernel
  have target : Format.binary64.targetExponent
      (totalExponent m e - totalExponent 8388608000000000 (-23)) = e - 30 := by
    unfold totalExponent
    rw [bits, billion]
    change max ((52 : Nat) + 1 + e - ((52 : Nat) + 1 + -23) - 53) (-1074) = _
    omega
  have smaller : min (e - -23) (e - 30) = e - 30 := by omega
  have shift : (e - -23 - (e - 30)).toNat = 53 := by omega
  unfold divCore
  rw [target, smaller]
  dsimp only
  rw [shift, Nat.shiftLeft_eq]

/-- Nanoseconds, one at least and less than a second, come to a fraction of a
second that is more than `2 ^ (-30)`. -/
theorem normal_nanos {n : Nat} (some : 0 < n) (part : n < 1000000000) :
    ∃ m k : Nat, Normal (Float.ofNat n / 1000000000.0) m (-k) ∧ 53 ≤ k ∧
      k ≤ 82 ∧ 2 ^ (k - 30) < m := by
  obtain ⟨low, high, ⟨positive, read⟩, -⟩ := normal_ofNat some (by omega)
  obtain ⟨above, billion⟩ := unpack_billion
  generalize digits : n * 2 ^ (52 - n.log2) = s at low high positive read
  have short : n.log2 ≤ 29 := by
    have below := (Nat.log2_lt (Nat.ne_of_gt some)).mpr
      (show n < 2 ^ 30 by omega)
    omega
  -- Close to a whole second there are fewer places behind the point.
  have late : n.log2 = 29 → s * 2 ^ 53 / 8388608000000000 < 2 ^ 53 - 1 := by
    intro top
    rw [top] at digits
    omega
  have quotient : Float.ofNat n / 1000000000.0 =
      .ofModel (.pack (roundWithAccuracy Format.binary64 .positive
        (s * 2 ^ 53 / 8388608000000000) (n.log2 - 52 - 30)
        (accuracyOfFraction (s * 2 ^ 53 % 8388608000000000)
          8388608000000000))) := by
    change Float.ofModel (.pack (UnpackedFloat.div Format.binary64
      (Float.ofNat n).toModel.unpack (1000000000.0 : Float).toModel.unpack)) = _
    rw [read, billion]
    change Float.ofModel (.pack (roundWithAccuracy Format.binary64 _
      (divCore Format.binary64 s _ _ _).1 (divCore Format.binary64 s _ _ _).2.1
      (divCore Format.binary64 s _ _ _).2.2)) = _
    rw [divCore_billion low high (by omega)]
    rfl
  rw [quotient]
  have whole : 2 ^ 52 < s * 2 ^ 53 / 8388608000000000 := by omega
  have below : s * 2 ^ 53 / 8388608000000000 < 2 ^ 54 - 2 := by omega
  generalize s * 2 ^ 53 / 8388608000000000 = q at late whole below
  generalize accuracyOfFraction _ _ = accuracy
  have comes := roundWithAccuracy_comes (e := n.log2 - 52 - 30) accuracy
    (Nat.le_of_lt whole) (by omega)
  obtain ⟨least, most⟩ := kept_bounds q accuracy
  have few : q.log2 ≤ 53 := by
    have below := (Nat.log2_lt (by omega)).mpr (show q < 2 ^ 54 by omega)
    omega
  have enough : 52 ≤ q.log2 := le_log2_of_le (Nat.le_of_lt whole)
  have exponent : (n.log2 : Int) - 52 - 30 + (q.log2 - 52 : Nat) =
      -(82 - n.log2 - (q.log2 - 52) : Nat) := by omega
  rw [exponent] at comes
  obtain ⟨m, carry, one, worth, normal⟩ := comes.normal (by omega) (by omega)
  refine ⟨m, _, normal, ?_⟩
  have low := normal.low
  have full : 2 ^ q.log2 ≤ q := Nat.log2_self_le (by omega)
  have power : 2 ^ (82 - n.log2 - (q.log2 - 52) - carry - 30) ≤
      2 ^ (52 - (q.log2 - 52) - carry) :=
    Nat.pow_le_pow_right (by decide) (by omega)
  -- The quotient has fifty-three bits or one more, and there may be a carry.
  obtain bits | bits : q.log2 = 52 ∨ q.log2 = 53 := by omega
  · rw [bits] at least most full power ⊢
    obtain rfl | rfl : carry = 0 ∨ carry = 1 := by omega
    · omega
    · omega
  · rw [bits] at least most full power ⊢
    obtain rfl | rfl : carry = 0 ∨ carry = 1 := by omega
    · omega
    · omega

/-! Sums -/

/-- What is kept of a sum is more than its whole part, if the rest is more than
half of what is dropped. -/
theorem kept_sum {s m k : Nat} (early : s < 2 ^ 24) (wide : 53 ≤ k)
    (some : 2 ^ (k - 30) < m) (part : m < 2 ^ k) (positive : 0 < s) :
    ∃ d, (s * 2 ^ k + m).log2 - 52 = d ∧ d ≤ k - 29 ∧
      s * 2 ^ (k - d) < kept (s * 2 ^ k + m) .exact ∧
      kept (s * 2 ^ k + m) .exact ≤ (s + 1) * 2 ^ (k - d) := by
  have low : 2 ^ k ≤ s * 2 ^ k + m := by
    have least := Nat.mul_le_mul_right (2 ^ k) positive
    omega
  have high : s * 2 ^ k + m < 2 ^ (24 + k) := by
    have most := Nat.mul_le_mul_right (2 ^ k) early
    rw [Nat.succ_mul, ← Nat.pow_add] at most
    omega
  have bits := le_log2_of_le low
  have few := (Nat.log2_lt (by omega)).mpr high
  refine ⟨_, rfl, by omega, ?_⟩
  obtain ⟨least, most⟩ := kept_bounds (s * 2 ^ k + m) .exact
  unfold kept at *
  obtain ⟨d, dropped⟩ : ∃ d, (s * 2 ^ k + m).log2 - 52 = d + 1 :=
    ⟨(s * 2 ^ k + m).log2 - 53, by omega⟩
  rw [dropped] at least most ⊢
  have split : 2 ^ k = 2 ^ (k - (d + 1)) * 2 ^ (d + 1) := by
    rw [← Nat.pow_add]
    congr 1
    omega
  have unit : 0 < 2 ^ (d + 1) := Nat.two_pow_pos _
  have quotient : (s * 2 ^ k + m) / 2 ^ (d + 1) =
      s * 2 ^ (k - (d + 1)) + m / 2 ^ (d + 1) := by
    rw [split, ← Nat.mul_assoc, Nat.add_comm, Nat.add_mul_div_right _ _ unit,
      Nat.add_comm]
  have residue : (s * 2 ^ k + m) % 2 ^ (d + 1) = m % 2 ^ (d + 1) := by
    rw [split, ← Nat.mul_assoc, Nat.add_comm, Nat.add_mul_mod_self_right]
  have rest : m / 2 ^ (d + 1) < 2 ^ (k - (d + 1)) := by
    rw [Nat.div_lt_iff_lt_mul unit, ← split]
    exact part
  rw [quotient] at least most
  rw [Nat.succ_mul]
  refine ⟨?_, by omega⟩
  by_cases units : 2 ^ (d + 1) ≤ m
  · have one : 1 ≤ m / 2 ^ (d + 1) :=
      (Nat.one_le_div_iff unit).mpr units
    omega
  · have fits : m < 2 ^ (d + 1) := Nat.lt_of_not_le units
    have half : 2 ^ d < (s * 2 ^ k + m) % 2 ^ (d + 1) := by
      rw [residue, Nat.mod_eq_of_lt fits]
      exact Nat.lt_of_le_of_lt (Nat.pow_le_pow_right (by decide) (by omega))
        some
    have up := rounded_of_half_lt half
    unfold whole at up
    rw [up, quotient, Nat.div_eq_of_lt fits]
    exact Nat.lt_succ_self _

/-- A fraction of a second that is more than `2 ^ (-30)` is not lost in less
than `2 ^ 24` seconds. -/
theorem normal_sum {x y : Float} {s m k : Nat}
    (wholePart : Normal x (s * 2 ^ (52 - s.log2)) (s.log2 - 52))
    (fraction : Normal y m (-k)) (positive : 0 < s) (early : s < 2 ^ 24)
    (wide : 53 ≤ k) (narrow : k ≤ 82) (some : 2 ^ (k - 30) < m) :
    ∃ n g, Normal (x + y) n (-(g : Nat)) ∧ 0 < g ∧ s * 2 ^ g < n ∧
      n ≤ (s + 1) * 2 ^ g := by
  obtain ⟨-, -, ⟨first, readWhole⟩, -⟩ := wholePart
  obtain ⟨low, high, ⟨second, readFraction⟩, -⟩ := fraction
  have bits : s.log2 ≤ 23 := by
    have below := (Nat.log2_lt (Nat.ne_of_gt positive)).mpr early
    omega
  have part : m < 2 ^ k :=
    Nat.lt_of_lt_of_le high (Nat.pow_le_pow_right (by decide) wide)
  have least : min ((s.log2 : Int) - 52) (-k) = -k := by omega
  have aligned : decreaseExponent (s * 2 ^ (52 - s.log2)) (s.log2 - 52)
      (-(k : Int)) = (s * 2 ^ k, -(k : Int)) := by
    have shift : ((s.log2 : Int) - 52 - -k).toNat = k - (52 - s.log2) := by
      omega
    have exponent : (s.log2 : Int) - 52 - (k - (52 - s.log2) : Nat) = -k := by
      omega
    rw [decreaseExponent, shift, exponent, Nat.shiftLeft_eq, Nat.mul_assoc,
      ← Nat.pow_add, Nat.add_sub_cancel' (by omega)]
  have still : decreaseExponent m (-k : Int) (-k) = (m, -(k : Int)) := by
    rw [decreaseExponent, Int.sub_self]
    exact Prod.ext rfl (Int.sub_zero _)
  have enough : 2 ^ 52 ≤ s * 2 ^ k + m := by omega
  have added : x + y = .ofModel (.pack (roundWithAccuracy Format.binary64
      .positive (s * 2 ^ k + m) (-k) .exact)) := by
    change Float.ofModel (.pack (UnpackedFloat.add Format.binary64
      x.toModel.unpack y.toModel.unpack)) = _
    rw [readWhole, readFraction, add_finite, least, aligned, still,
      normalize_positive (by omega), round_of_enough enough (by omega)]
  obtain ⟨d, dropped, few, above, below⟩ :=
    kept_sum early wide some part positive
  have comes := roundWithAccuracy_comes (e := -k) .exact enough (by omega)
  have exponent : -(k : Int) + (d : Nat) = -(k - d : Nat) := by omega
  rw [dropped, exponent] at comes
  obtain ⟨n, carry, one, worth, normal⟩ := comes.normal (by omega) (by omega)
  have split : 2 ^ (k - d) = 2 ^ (k - d - carry) * 2 ^ carry := by
    rw [← Nat.pow_add, Nat.sub_add_cancel (by omega)]
  rw [← worth, split, ← Nat.mul_assoc] at above below
  rw [added]
  refine ⟨n, _, normal, by omega, ?_, ?_⟩
  · exact Nat.lt_of_mul_lt_mul_right above
  · exact Nat.le_of_mul_le_mul_right below (Nat.two_pow_pos carry)

/-! Nothing before or behind the point -/

theorem Normal.of_add {x y z : Float} {m : Nat} {e : Int}
    (normal : Normal z m e) (least : -1074 ≤ e) (most : e ≤ 971)
    (same : UnpackedFloat.add Format.binary64 x.toModel.unpack
      y.toModel.unpack = z.toModel.unpack) : Normal (x + y) m e := by
  obtain ⟨low, high, ⟨positive, read⟩, -⟩ := normal
  have added : x + y = .ofModel (.pack (.finite .positive m e positive)) :=
    congrArg (fun parts => Float.ofModel (.pack parts)) (same.trans read)
  rw [added]
  exact normal_pack low high least most positive

/-- The double of a duration is in the same whole second as the duration, the
second's end included and its beginning not. -/
theorem normal_inSecs {s n : Nat} (some : 0 < n) (one : n ≤ 1000000000)
    (early : s < 2 ^ 24) :
    ∃ m g, Normal (Float.ofNat ((s * 1000000000 + n) / 1000000000) +
        Float.ofNat ((s * 1000000000 + n) % 1000000000) / 1000000000.0) m
          (-(g : Nat)) ∧
      0 < g ∧ s * 2 ^ g < m ∧ m ≤ (s + 1) * 2 ^ g := by
  rcases Nat.lt_or_eq_of_le one with part | rfl
  · have secs : (s * 1000000000 + n) / 1000000000 = s := by omega
    have nanos : (s * 1000000000 + n) % 1000000000 = n := by omega
    rw [secs, nanos]
    obtain ⟨m, k, fraction, wide, narrow, more⟩ := normal_nanos some part
    rcases Nat.eq_zero_or_pos s with rfl | positive
    · have most : 2 ^ 53 ≤ 2 ^ k := Nat.pow_le_pow_right (by decide) wide
      have high := fraction.high
      have normal : Normal (Float.ofNat 0 + _) m (-k) :=
        fraction.of_add (by omega) (by omega) (by
          obtain ⟨positive, read⟩ := fraction.unpacked
          rw [read]
          rfl)
      refine ⟨m, k, normal, by omega, ?_, ?_⟩
      · rw [Nat.zero_mul]
        exact Nat.zero_lt_of_lt more
      · rw [Nat.zero_add, Nat.one_mul]
        omega
    · exact normal_sum (normal_ofNat positive (by omega)) fraction positive
        early wide narrow more
  · have secs : (s * 1000000000 + 1000000000) / 1000000000 = s + 1 := by omega
    have nanos : (s * 1000000000 + 1000000000) % 1000000000 = 0 := by omega
    rw [secs, nanos]
    have nonzero : s + 1 ≠ 0 := Nat.succ_ne_zero s
    have bits : (s + 1).log2 ≤ 24 := by
      have below := (Nat.log2_lt nonzero).mpr (show s + 1 < 2 ^ 25 by omega)
      omega
    have exponent : ((s + 1).log2 : Int) - 52 = -(52 - (s + 1).log2 : Nat) := by
      omega
    have whole := normal_ofNat (Nat.pos_of_ne_zero nonzero) (by omega)
    rw [exponent] at whole
    have normal : Normal (_ + Float.ofNat 0 / 1000000000.0) _ _ :=
      whole.of_add (by omega) (by omega) (by
        obtain ⟨positive, read⟩ := whole.unpacked
        rw [read]
        rfl)
    refine ⟨_, _, normal, by omega, ?_, Nat.le_refl _⟩
    exact Nat.mul_lt_mul_of_pos_right (Nat.lt_succ_self s) (Nat.two_pow_pos _)

end Rounding

theorem divCeil_of_mem {num den s : Nat} (above : s * den < num)
    (below : num ≤ (s + 1) * den) : divCeil num den = s + 1 := by
  rw [Nat.succ_mul] at below
  apply Nat.div_eq_of_lt_le
  · rw [Nat.succ_mul]
    omega
  · rw [Nat.succ_mul, Nat.succ_mul]
    omega

theorem Refusal.ceilSecs_of_normal {duration m g : Nat}
    (normal : Rounding.Normal (Float.ofNat (duration / 1000000000) +
      Float.ofNat (duration % 1000000000) / 1000000000.0) m (-(g : Nat)))
    (some : 0 < g) :
    ceilSecs duration = min (divCeil m (2 ^ g)) 18446744073709551615 := by
  have read := normal.dyadic
  have behind : ¬ 0 ≤ -(g : Int) := by omega
  have power : (- -(g : Int)).toNat = g := by omega
  have second : Clock.secs 1 = 1000000000 := rfl
  rw [ceilSecs, Clock.wholeSecs, second]
  -- From here on the double is opaque: nothing may try to work it out.
  generalize Float.ofNat (duration / 1000000000) +
    Float.ofNat (duration % 1000000000) / 1000000000.0 = x at read ⊢
  dsimp only
  rw [read]
  dsimp only
  rw [dyadicQuotient, if_neg behind, power, Nat.pow_eq]

/-- Rounding up by way of a double is exact below `2 ^ 24` seconds. -/
theorem Refusal.ceilSecs_eq {duration : Nat}
    (early : duration < Clock.secs (2 ^ 24)) :
    ceilSecs duration = divCeil duration (Clock.secs 1) := by
  rcases Nat.eq_zero_or_pos duration with rfl | positive
  · decide +kernel
  · obtain ⟨s, n, rfl, some, one⟩ : ∃ s n,
        duration = s * 1000000000 + n ∧ 0 < n ∧ n ≤ 1000000000 :=
      ⟨(duration - 1) / 1000000000, (duration - 1) % 1000000000 + 1, by omega,
        by omega, by omega⟩
    have short : s < 2 ^ 24 := by
      unfold Clock.secs at early
      omega
    have fits : s + 1 ≤ 18446744073709551615 := by omega
    have above : s * 1000000000 < s * 1000000000 + n :=
      Nat.lt_add_of_pos_right some
    have below : s * 1000000000 + n ≤ (s + 1) * 1000000000 := by omega
    have exact := divCeil_of_mem above below
    obtain ⟨m, g, normal, shifted, above, below⟩ :=
      Rounding.normal_inSecs some one short
    rw [ceilSecs_of_normal normal shifted, divCeil_of_mem above below,
      Nat.min_eq_left fits]
    exact exact.symm

/-- The bound is sharp. -/
example : Refusal.ceilSecs (Clock.secs (2 ^ 24) + 1) = 2 ^ 24 := by
  decide +kernel

theorem Refusal.secs_ceilSecs {duration : Nat}
    (early : duration < Clock.secs (2 ^ 24)) :
    duration ≤ Clock.secs (ceilSecs duration) ∧
      (duration = Clock.secs (ceilSecs duration) ↔
        Clock.secs 1 ∣ duration) := by
  rw [ceilSecs_eq early]
  clear early
  unfold divCeil Clock.secs
  omega

end Tollgate
