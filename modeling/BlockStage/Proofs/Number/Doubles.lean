import BlockStage.Number.Binary
import Mathlib

/-!
# Whole numbers as doubles

The double nearest to a fraction has the exponent that leaves 53 bits of it (`Binary.nearest_of_leadingAt`). A
natural number below `2 ^ 53`, or half of one, is a double (`Binary.parts_nearest_scaled`). A mantissa of few enough
bits is not changed by rounding (`Binary.Normal.round`).
-/

namespace BlockStage.Binary

open Float.Model Float.Model.UnpackedFloat

variable {m n : Nat}

/-! ## Parts of a double -/

/-- The sign, the mantissa and the exponent of a double. -/
def parts (x : Float) : UnpackedFloat := x.toModel.unpack

/-- The parts of a double that is packed and unpacked again. -/
def repacked (f : UnpackedFloat) : UnpackedFloat := (Float.Model.pack f).unpack

theorem parts_add (x y : Float) : parts (x + y) = repacked (.add .binary64 (parts x) (parts y)) := rfl

theorem parts_mul (x y : Float) : parts (x * y) = repacked (.mul .binary64 (parts x) (parts y)) := rfl

theorem parts_abs (x : Float) : parts x.abs = repacked (parts x).abs := rfl

/-- A mantissa of as many bits as a double holds, with an exponent that it can have. -/
structure Normal (m : Nat) (e : Int) : Prop where
  least : 2 ^ 52 ≤ m
  below : m < 2 ^ 53
  small : -1074 ≤ e
  large : e ≤ 971

theorem toNat_implicit (m : BitVec 52) : (1#1 ++ m).toNat = 2 ^ 52 + m.toNat := by
  rw [BitVec.toNat_append, ← Nat.shiftLeft_add_eq_or_of_lt m.isLt]
  rfl

theorem repacked_zero (s : Sign) : repacked (.zero s) = .zero s := unpack_packedZero

theorem ofNat_ne_top {f : Nat} (top : f < 2047) : BitVec.ofNat 11 f ≠ -1#11 := fun same => by
  have := congrArg BitVec.toNat same
  rw [BitVec.toNat_ofNat, Nat.mod_eq_of_lt (by omega)] at this
  exact absurd this (Nat.ne_of_lt top)

theorem unpack_components (s : Sign) {f low : Nat} (ne : f ≠ 0) (top : f < 2047) (hlow : low < 2 ^ 52) :
    UnpackedFloat.unpack .binary64 (packComponents .binary64 s (BitVec.ofNat 11 f) (BitVec.ofNat 52 low)) =
      .finite s (2 ^ 52 + low) (f - 1075) (by omega) := by
  have exponent : (BitVec.ofNat 11 f).toNat = f := by
    rw [BitVec.toNat_ofNat, Nat.mod_eq_of_lt (by omega)]
  have notZero : BitVec.ofNat 11 f ≠ 0#11 := fun same => by
    rw [same] at exponent
    exact ne exponent.symm
  have mantissa : (1#1 ++ BitVec.ofNat 52 low).toNat = 2 ^ 52 + low := by
    rw [toNat_implicit, BitVec.toNat_ofNat, Nat.mod_eq_of_lt hlow]
  rw [UnpackedFloat.unpack]
  simp only [unpackMantissa_packComponents, unpackExponent_packComponents, unpackSign_packComponents]
  rw [if_neg (ofNat_ne_top top), if_neg notZero]
  congr 1
  · cases s <;> rfl
  · rw [exponent]
    show (f : Int) - ((1023 : Nat) + (52 : Nat)) = _
    omega

theorem Normal.repacked {s : Sign} {e : Int} (h : Normal m e) (pos : 0 < m) :
    repacked (.finite s m e pos) = .finite s m e pos := by
  obtain ⟨least, below, small, large⟩ := h
  obtain ⟨f, hf⟩ : ∃ f : Nat, e = f - 1075 := ⟨(e + 1075).toNat, by omega⟩
  obtain ⟨low, rfl⟩ := Nat.exists_eq_add_of_le least
  subst hf
  rw [← unpack_components s (f := f) (by omega) (by omega) (by omega : low < 2 ^ 52)]
  show UnpackedFloat.unpack .binary64 (UnpackedFloat.pack .binary64 (UnpackedFloat.unpack .binary64 _)) = _
  rw [pack_unpack, if_neg]
  rw [isNaNBits, unpackExponent_packComponents, decide_eq_true_iff]
  exact fun nan => ofNat_ne_top (by omega) nan.1

/-! ## Rounding -/

theorem mantissa_shiftRight (em : ExtendedMantissa) (k : Nat) : (em >>> k).mantissa = em.mantissa / 2 ^ k := by
  induction k with
  | zero => exact (Nat.div_one _).symm
  | succ k ih =>
    show (em >>> k).mantissa / 2 = _
    rw [ih, Nat.div_div_eq_div_mul, Nat.pow_succ]

theorem roundedMantissa_bounds (em : ExtendedMantissa) :
    em.mantissa ≤ em.roundedMantissa ∧ em.roundedMantissa ≤ em.mantissa + 1 := by
  rcases em with ⟨m, _ | _, _ | _⟩ <;>
    simp only [ExtendedMantissa.roundedMantissa, ExtendedMantissa.accuracy, Accuracy.roundToNearestEven] <;> omega

theorem shiftToTargetExponent_of_bits {k : Nat} {e : Int} (bits : m.log2 = 52 + k) (small : -1074 ≤ e + k)
    (acc : Accuracy) : shiftToTargetExponent .binary64 m e acc =
      (ExtendedMantissa.ofMantissaAndAccuracy m acc >>> k, e + k) := by
  have target : Format.targetExponent .binary64 (totalExponent m e) = e + k := by
    show max ((m.log2 : Int) + 1 + e - (1 + 52 : Nat)) (3 - 2 ^ 10 - (1 + 52 : Nat)) = e + k
    omega
  have amount : (e + (k : Int) - e).toNat = k := by omega
  rw [shiftToTargetExponent, target, shiftToExponent, amount]

theorem shiftToTargetExponent_eq {k : Nat} {e : Int} (bits : m.log2 = 52 + k) (small : -1074 ≤ e + k) :
    shiftToTargetExponent .binary64 m e .exact = ((⟨m, false, false⟩ : ExtendedMantissa) >>> k, e + k) :=
  shiftToTargetExponent_of_bits bits small .exact

/-- The bits of a number from its leading one on, as many as a double holds. -/
theorem div_two_pow_bounds {k : Nat} (bits : m.log2 = 52 + k) : 2 ^ 52 ≤ m / 2 ^ k ∧ m / 2 ^ k < 2 ^ 53 := by
  obtain ⟨low, high⟩ := (Nat.log2_eq_iff (show m ≠ 0 by rintro rfl; simp at bits; omega)).1 bits
  exact ⟨(Nat.le_div_iff_mul_le (Nat.two_pow_pos k)).2 (by rwa [← Nat.pow_add]),
    (Nat.div_lt_iff_lt_mul (Nat.two_pow_pos k)).2 (by rwa [← Nat.pow_add, show 53 + k = 52 + k + 1 by omega])⟩

/-- Rounding a number that has enough bits drops those that a double does not hold. The mantissa may get one
more by that, and if it is full then, the exponent does. -/
theorem roundWithAccuracy_normal (s : Sign) {k : Nat} {e : Int} (bits : m.log2 = 52 + k) (small : -1074 ≤ e + k)
    (acc : Accuracy) :
    ∃ m' e' pos, roundWithAccuracy .binary64 s m e acc = .finite s m' e' pos ∧ 2 ^ 52 ≤ m' ∧ m' < 2 ^ 53 ∧
      (e' = e + k ∧ m / 2 ^ k ≤ m' ∧ m' ≤ m / 2 ^ k + 1 ∨ e' = e + k + 1 ∧ m' = 2 ^ 52 ∧ 2 ^ 53 = m / 2 ^ k + 1) := by
  obtain ⟨floor, ceil⟩ := div_two_pow_bounds bits
  have start : (ExtendedMantissa.ofMantissaAndAccuracy m acc).mantissa = m := by
    rcases acc with _ | _ | _ | _ <;> rfl
  obtain ⟨atLeast, atMost⟩ := roundedMantissa_bounds (ExtendedMantissa.ofMantissaAndAccuracy m acc >>> k)
  rw [mantissa_shiftRight, start] at atLeast atMost
  rw [roundWithAccuracy, shiftToTargetExponent_of_bits bits small]
  dsimp only at atLeast atMost ⊢
  generalize (ExtendedMantissa.ofMantissaAndAccuracy m acc >>> k).roundedMantissa = r at atLeast atMost ⊢
  by_cases fits : r < 2 ^ 53
  · have bits' : r.log2 = 52 + 0 := (Nat.log2_eq_iff (by omega)).2 ⟨by omega, fits⟩
    rw [shiftToTargetExponent_eq bits' (by omega)]
    have kept : ((⟨r, false, false⟩ : ExtendedMantissa) >>> 0).mantissa = r := rfl
    simp only [kept]
    rw [dif_neg (by omega)]
    exact ⟨r, _, by omega, rfl, by omega, fits, .inl ⟨by omega, atLeast, atMost⟩⟩
  · obtain rfl : r = 2 ^ 53 := by omega
    rw [shiftToTargetExponent_eq (k := 1) Nat.log2_two_pow (by omega)]
    exact ⟨2 ^ 52, _, by decide, rfl, by decide, by decide, .inr ⟨by omega, rfl, by omega⟩⟩

/-! ## Fractions -/

/-- An integer next to a number, and the even one of two that are equally near. -/
def Rounds (n : Int) (x : ℚ) : Prop := |n - x| ≤ 1 / 2 ∧ (|n - x| = 1 / 2 → 2 ∣ n)

theorem Rounds.of_lt {n : Int} {x : ℚ} (h : |n - x| < 1 / 2) : Rounds n x := ⟨h.le, fun tie => absurd tie h.ne⟩

theorem Rounds.neg {n : Int} {x : ℚ} (h : Rounds n x) : Rounds (-n) (-x) := by
  have same : |((-n : Int) : ℚ) - -x| = |n - x| := by
    push_cast
    rw [neg_sub_neg, abs_sub_comm]
  rw [Rounds, same, Int.dvd_neg]
  exact h

theorem divEven_near (num : Nat) {den : Nat} (pos : 0 < den) :
    num / den ≤ divEven num den ∧ divEven num den ≤ num / den + 1 ∧ Rounds (divEven num den) (num / den) := by
  have positive : (0 : ℚ) < den := by exact_mod_cast pos
  have whole : (num : ℚ) / den = (num / den : Nat) + (num % den : Nat) / den := by
    rw [add_div' _ _ _ positive.ne']
    exact congrArg (· / (den : ℚ)) (by exact_mod_cast (Nat.div_add_mod' num den).symm)
  have rest := Nat.mod_lt num pos
  rw [whole, divEven]
  generalize num / den = q
  generalize num % den = r at *
  have unit : (r : ℚ) / den ≤ 1 := (div_le_one positive).2 (by exact_mod_cast rest.le)
  have nonneg : (0 : ℚ) ≤ r / den := by positivity
  have share {c : ℚ} : (r : ℚ) / den ≤ c ↔ r ≤ c * den := div_le_iff₀ positive
  split
  · next less =>
    have less : 2 * (r : ℚ) < den := by exact_mod_cast less
    have := (div_lt_iff₀ positive).2 (show (r : ℚ) < 1 / 2 * den by linarith)
    refine ⟨le_rfl, by omega, .of_lt (abs_lt.2 ?_)⟩
    push_cast
    exact ⟨by linarith, by linarith⟩
  · split
    · next more =>
      have more : (den : ℚ) < 2 * r := by exact_mod_cast more
      have := mt share.1 (show ¬ (r : ℚ) ≤ 1 / 2 * den by linarith)
      refine ⟨by omega, le_rfl, .of_lt (abs_lt.2 ?_)⟩
      push_cast
      exact ⟨by linarith, by linarith⟩
    · next less more =>
      have tie : 2 * (r : ℚ) = den := by exact_mod_cast (show 2 * r = den by omega)
      rw [(div_eq_iff positive.ne').2 (show (r : ℚ) = 1 / 2 * den by linarith)]
      rcases Nat.mod_two_eq_zero_or_one q with even | odd
      · rw [even]
        exact ⟨by omega, by omega, by norm_num, fun _ => by omega⟩
      · rw [odd]
        exact ⟨by omega, by omega, by push_cast; norm_num, fun _ => by omega⟩

theorem scaled_eq {α : Type} (op : Nat → Nat → α) (num den : Nat) (e : Int) :
    (if 0 ≤ e then op num (den * twoTo e.toNat) else op (num * twoTo (-e).toNat) den) =
      op (num * 2 ^ (-e).toNat) (den * 2 ^ e.toNat) := by
  split
  · rw [show (-e).toNat = 0 by omega, Nat.pow_zero, Nat.mul_one]
    rfl
  · rw [show e.toNat = 0 by omega, Nat.pow_zero, Nat.mul_one]
    rfl

/-- The leading bits of a fraction, in units of `2 ^ e`. -/
def leadingAt (num den : Nat) (e : Int) : Nat := num * 2 ^ (-e).toNat / (den * 2 ^ e.toNat)

section

variable {num den : Nat} (hd : den ≠ 0)

include hd

theorem le_leadingAt_iff {e : Int} : n ≤ leadingAt num den e ↔ (n : ℚ) * 2 ^ e ≤ num / den := by
  have pos : (0 : ℚ) < den := by exact_mod_cast Nat.pos_of_ne_zero hd
  rw [leadingAt, Nat.le_div_iff_mul_le (Nat.mul_pos (Nat.pos_of_ne_zero hd) (Nat.two_pow_pos _)), le_div_iff₀ pos,
    ← Nat.cast_le (α := ℚ)]
  obtain ⟨j, rfl | rfl⟩ := Int.eq_nat_or_neg e
  · simp [mul_comm, mul_left_comm]
  · rw [zpow_neg, zpow_natCast, ← div_eq_mul_inv, div_mul_eq_mul_div, div_le_iff₀ (by positivity)]
    simp

theorem le_leadingAt_succ_iff {e : Int} : n ≤ leadingAt num den (e + 1) ↔ 2 * n ≤ leadingAt num den e := by
  rw [le_leadingAt_iff hd, le_leadingAt_iff hd, zpow_add_one₀ two_ne_zero]
  push_cast
  rw [mul_comm (2 ^ e : ℚ), ← mul_assoc, mul_comm (n : ℚ)]

theorem exponent_lt {a b : Nat} {e e' : Int} (low : 2 ^ a ≤ leadingAt num den e) (high : leadingAt num den e' < 2 ^ b) :
    a + e < b + e' := by
  have less := ((le_leadingAt_iff hd).1 low).trans_lt (not_le.1 (mt (le_leadingAt_iff hd).2 (not_le.2 high)))
  push_cast at less
  rw [← zpow_natCast, ← zpow_natCast, ← zpow_add₀ two_ne_zero, ← zpow_add₀ two_ne_zero] at less
  exact (zpow_lt_zpow_iff_right₀ one_lt_two).1 less

variable (hn : num ≠ 0)

include hn

theorem exponentBelow_bounds : 2 ^ 52 ≤ leadingAt num den (exponentBelow num den) ∧
    leadingAt num den (exponentBelow num den) < 2 ^ 54 := by
  have pos : (0 : ℚ) < den := by exact_mod_cast Nat.pos_of_ne_zero hd
  have fine : (0 : ℚ) < 2 ^ exponentBelow num den := zpow_pos two_pos _
  have num_low : (2 : ℚ) ^ num.log2 ≤ num := by exact_mod_cast Nat.log2_self_le hn
  have num_high : (num : ℚ) < 2 ^ (num.log2 + 1) := by exact_mod_cast Nat.lt_log2_self
  have den_low : (2 : ℚ) ^ den.log2 ≤ den := by exact_mod_cast Nat.log2_self_le hd
  have den_high : (den : ℚ) < 2 ^ (den.log2 + 1) := by exact_mod_cast Nat.lt_log2_self
  have unit : (2 : ℚ) ^ num.log2 = 2 ^ 53 * 2 ^ exponentBelow num den * 2 ^ den.log2 := by
    rw [← zpow_natCast, ← zpow_natCast, ← zpow_natCast, ← zpow_add₀ two_ne_zero, ← zpow_add₀ two_ne_zero, exponentBelow]
    congr 1
    omega
  rw [← not_le, le_leadingAt_iff hd, le_leadingAt_iff hd, not_le, le_div_iff₀ pos, div_lt_iff₀ pos]
  rw [pow_succ, unit] at num_high
  rw [unit] at num_low
  rw [pow_succ] at den_high
  push_cast
  exact ⟨by nlinarith, by nlinarith⟩

theorem exists_leadingAt : ∃ e, 2 ^ 52 ≤ leadingAt num den e ∧ leadingAt num den e < 2 ^ 53 := by
  obtain ⟨above, below⟩ := exponentBelow_bounds hd hn
  by_cases less : leadingAt num den (exponentBelow num den) < 2 ^ 53
  · exact ⟨_, above, less⟩
  · refine ⟨exponentBelow num den + 1, (le_leadingAt_succ_iff hd).2 (by omega), ?_⟩
    exact not_le.1 (mt (le_leadingAt_succ_iff hd).1 (by omega))

/-- The double nearest to a fraction, of which the exponent is known. -/
theorem nearest_of_leadingAt (neg : Bool) {e : Int} (least : 2 ^ 52 ≤ leadingAt num den e)
    (below : leadingAt num den e < 2 ^ 53) (small : -1074 ≤ e) (large : e ≤ 970) :
    nearest neg num den = ofMagnitude neg ((e + 1074).toNat * 2 ^ 52 +
      divEven (num * 2 ^ (-e).toNat) (den * 2 ^ e.toNat)) := by
  have exponent : max leastExp (if leadingAt num den (exponentBelow num den) < twoTo 53 then exponentBelow num den
      else exponentBelow num den + 1) = e := by
    obtain ⟨least', below'⟩ := exponentBelow_bounds hd hn
    show max (-1074) (if _ < 2 ^ 53 then _ else _) = e
    split
    · next less =>
      have := exponent_lt hd least less
      have := exponent_lt hd least' below
      omega
    · next more =>
      have := exponent_lt hd least below'
      have := exponent_lt hd (not_lt.1 more) below
      omega
  obtain ⟨-, most, -⟩ := divEven_near (num * 2 ^ (-e).toNat)
    (Nat.mul_pos (Nat.pos_of_ne_zero hd) (Nat.two_pow_pos e.toNat))
  unfold nearest scaledEven
  rw [if_neg hn]
  dsimp only
  rw [scaled_eq (· / ·), ← leadingAt, exponent, scaled_eq, show e - leastExp = e + 1074 by simp only [leastExp]; omega]
  congr 1
  refine Nat.min_eq_left ?_
  show (e + 1074).toNat * 2 ^ 52 + _ ≤ 2047 * 2 ^ 52
  rw [← leadingAt] at most
  omega

end

/-! ## Whole numbers -/

theorem log2_le (ne : n ≠ 0) (h : n < 2 ^ 53) : n.log2 ≤ 52 := Nat.lt_succ_iff.1 ((Nat.log2_lt ne).2 h)

/-- The mantissa of a whole number with its leading bit brought to the front. -/
def leading (n : Nat) : Nat := n * 2 ^ (52 - n.log2)

theorem leading_pos (ne : n ≠ 0) : 0 < leading n := Nat.mul_pos (Nat.pos_of_ne_zero ne) (Nat.two_pow_pos _)

theorem normal_leading (ne : n ≠ 0) (h : n < 2 ^ 53) : Normal (leading n) (n.log2 - 52) := by
  have bits := log2_le ne h
  obtain ⟨low, high⟩ := (Nat.log2_eq_iff ne).1 rfl
  have pos := Nat.two_pow_pos (52 - n.log2)
  refine ⟨?_, ?_, by omega, by omega⟩
  · calc 2 ^ 52 = 2 ^ n.log2 * 2 ^ (52 - n.log2) := by rw [← Nat.pow_add, Nat.add_sub_cancel' bits]
      _ ≤ leading n := Nat.mul_le_mul_right _ low
  · calc leading n < 2 ^ (n.log2 + 1) * 2 ^ (52 - n.log2) := Nat.mul_lt_mul_of_pos_right high pos
      _ = 2 ^ 53 := by rw [← Nat.pow_add]; congr 1; omega

/-- The sign of a number that is below zero or not. -/
def signOf (neg : Bool) : Sign := if neg then .negative else .positive

theorem toNat_components (s : Sign) {f low : Nat} (top : f < 2048) (hlow : low < 2 ^ 52) :
    (packComponents .binary64 s (BitVec.ofNat 11 f) (BitVec.ofNat 52 low)).toNat =
      s.toBitVec.toNat * 2 ^ 63 + (f * 2 ^ 52 + low) := by
  have bits : (packComponents .binary64 s (BitVec.ofNat 11 f) (BitVec.ofNat 52 low)).toNat =
      ((s.toBitVec ++ BitVec.ofNat 11 f) ++ BitVec.ofNat 52 low).toNat := rfl
  rw [bits, BitVec.toNat_append, BitVec.toNat_append, ← Nat.shiftLeft_add_eq_or_of_lt (BitVec.isLt _),
    ← Nat.shiftLeft_add_eq_or_of_lt (BitVec.isLt _)]
  simp only [BitVec.toNat_ofNat, Nat.shiftLeft_eq]
  omega

theorem ofNat_eq_components (neg : Bool) {f low : Nat} (top : f < 2047) (hlow : low < 2 ^ 52) :
    (UInt64.ofNat ((if neg then twoTo 63 else 0) + (f * 2 ^ 52 + low))).toBitVec =
      packComponents .binary64 (signOf neg) (BitVec.ofNat 11 f) (BitVec.ofNat 52 low) := by
  apply BitVec.eq_of_toNat_eq
  have sign : (signOf neg).toBitVec.toNat * 2 ^ 63 = if neg then twoTo 63 else 0 := by cases neg <;> rfl
  have bit := (signOf neg).toBitVec.isLt
  rw [toNat_components _ (by omega) hlow, UInt64.toNat_toBitVec, UInt64.toNat_ofNat', ← sign]
  omega

theorem parts_ofMagnitude (neg : Bool) {f low : Nat} (ne : f ≠ 0) (top : f < 2047) (hlow : low < 2 ^ 52) :
    parts (ofMagnitude neg (f * 2 ^ 52 + low)) = .finite (signOf neg) (2 ^ 52 + low) (f - 1075) (by omega) := by
  show repacked (UnpackedFloat.unpack .binary64 (UInt64.ofNat (_ + _)).toBitVec) = _
  rw [ofNat_eq_components neg top hlow, unpack_components _ ne top hlow]
  exact Normal.repacked ⟨by omega, by omega, by omega, by omega⟩ _

/-- A number of few enough bits, divided by one of the first powers of two, is a double. -/
theorem parts_nearest_scaled (neg : Bool) {j : Nat} (few : j ≤ 1) (ne : n ≠ 0) (h : n < 2 ^ 53)
    (pos : 0 < leading n) :
    parts (nearest neg n (2 ^ j)) = .finite (signOf neg) (leading n) (n.log2 - j - 52) pos := by
  have bits := log2_le ne h
  have normal := normal_leading ne h
  obtain ⟨e, he⟩ : ∃ e : Int, e = n.log2 - j - 52 := ⟨_, rfl⟩
  have unit : 0 < 2 ^ j * 2 ^ e.toNat := Nat.mul_pos (Nat.two_pow_pos j) (Nat.two_pow_pos _)
  have scaled : n * 2 ^ (-e).toNat = leading n * (2 ^ j * 2 ^ e.toNat) := by
    rw [leading, Nat.mul_assoc, ← Nat.pow_add, ← Nat.pow_add, show (-e).toNat = 52 - n.log2 + (j + e.toNat) by omega]
  have whole : leadingAt n (2 ^ j) e = leading n := by rw [leadingAt, scaled, Nat.mul_div_cancel _ unit]
  have exact : divEven (n * 2 ^ (-e).toNat) (2 ^ j * 2 ^ e.toNat) = leading n := by
    rw [divEven, scaled, Nat.mul_mod_left, Nat.mul_div_cancel _ unit]
    exact if_pos unit
  obtain ⟨low, split⟩ := Nat.exists_eq_add_of_le normal.least
  have below := normal.below
  have size : (e + 1074).toNat * 2 ^ 52 + leading n = (n.log2 + 1023 - j) * 2 ^ 52 + low := by omega
  rw [nearest_of_leadingAt (Nat.two_pow_pos j).ne' ne neg (whole ▸ normal.least) (whole ▸ below) (by omega) (by omega),
    exact, size, parts_ofMagnitude neg (by omega) (by omega) (by omega)]
  simp only [← split]
  rw [show ((n.log2 + 1023 - j : Nat) : Int) - 1075 = n.log2 - j - 52 by omega]

/-! ## Order -/

theorem lt_iff (x y : Float) : x < y ↔ (parts x).compare (parts y) = some .lt :=
  decide_eq_true_iff.trans beq_iff_eq

theorem beq_iff (x y : Float) : (x == y) = true ↔ (parts x).compare (parts y) = some .eq := by
  show ((parts x).compare (parts y) == some .eq) = true ↔ _
  exact beq_iff_eq

theorem le_iff (x y : Float) : x ≤ y ↔ ((parts x).compare (parts y)).any (·.isLE) = true :=
  decide_eq_true_iff

/-- Minus infinity stays so when something is added that is less than infinity. -/
theorem parts_add_negInfinity {x y : Float} (h : parts x = .infinity .negative) (finite : y < infinity) :
    parts (x + y) = .infinity .negative := by
  have top : parts infinity = .infinity .positive := rfl
  have same : UnpackedFloat.add .binary64 (.infinity .negative) (parts y) = .infinity .negative := by
    rw [lt_iff, top] at finite
    rcases hy : parts y with s | _ | s | ⟨s, m, e, pos⟩ <;> rw [hy] at finite
    · cases s with
      | positive => cases finite
      | negative => rfl
    · cases finite
    · rfl
    · rfl
  rw [parts_add, h, same]
  rfl

/-! ## Exact rounding -/

theorem log2_mul_two_pow {d : Nat} (ne : d ≠ 0) (k : Nat) : (d * 2 ^ k).log2 = d.log2 + k := by
  induction k with
  | zero => rw [Nat.pow_zero, Nat.mul_one, Nat.add_zero]
  | succ k ih =>
    have pos := Nat.mul_ne_zero ne (Nat.two_pow_pos k).ne'
    rw [Nat.pow_succ, ← Nat.mul_assoc, Nat.mul_comm, Nat.log2_two_mul pos, ih, Nat.add_assoc]

theorem shiftRight_exact (m k : Nat) : (⟨m * 2 ^ k, false, false⟩ : ExtendedMantissa) >>> k = ⟨m, false, false⟩ := by
  induction k generalizing m with
  | zero => rw [Nat.pow_zero, Nat.mul_one]; rfl
  | succ k ih =>
    have halved : ((⟨m * 2 * 2 ^ k, false, false⟩ : ExtendedMantissa) >>> k).shiftRightOne = ⟨m, false, false⟩ := by
      rw [ih]
      simp [ExtendedMantissa.shiftRightOne]
    rw [Nat.pow_succ', ← Nat.mul_assoc]
    exact halved

theorem Normal.log2 {e : Int} (h : Normal m e) : m.log2 = 52 :=
  (Nat.log2_eq_iff (Nat.pos_iff_ne_zero.1 (Nat.lt_of_lt_of_le (by decide) h.least))).2 ⟨h.least, h.below⟩

theorem Normal.roundWithAccuracy {k : Nat} {e e' : Int} (h : Normal m e') (same : e' = e + k) (s : Sign) (pos : 0 < m) :
    roundWithAccuracy .binary64 s (m * 2 ^ k) e .exact = .finite s m e' pos := by
  have small := h.small
  subst same
  have long : (m * 2 ^ k).log2 = 52 + k := by rw [log2_mul_two_pow (by omega), h.log2]
  have rounded : (⟨m, false, false⟩ : ExtendedMantissa).roundedMantissa = m := rfl
  have kept : ((⟨m, false, false⟩ : ExtendedMantissa) >>> 0).mantissa = m := rfl
  rw [UnpackedFloat.roundWithAccuracy, shiftToTargetExponent_eq long small, shiftRight_exact]
  dsimp only
  rw [rounded, shiftToTargetExponent_eq (k := 0) h.log2 (by omega)]
  simp only [kept]
  rw [dif_neg (by omega)]
  congr 1
  omega

theorem Normal.round {d k : Nat} {e e' : Int} (h : Normal m e') (same : d * 2 ^ k = m) (low : e' = e - k) (s : Sign)
    (pos : 0 < m) (j : Nat) :
    UnpackedFloat.round .binary64 s (d * 2 ^ j) (e - j) = .finite s m e' pos := by
  have small := h.small
  have length : d.log2 + k = 52 := by
    rw [← log2_mul_two_pow (by rintro rfl; omega), same, h.log2]
  have target : Format.targetExponent .binary64 (totalExponent (d * 2 ^ j) (e - j)) = e' := by
    show max (((d * 2 ^ j).log2 : Int) + 1 + (e - j) - (1 + 52 : Nat)) (3 - 2 ^ 10 - (1 + 52 : Nat)) = _
    rw [log2_mul_two_pow (by rintro rfl; omega)]
    omega
  obtain ⟨a, ha⟩ : ∃ a, a = (e - j - e').toNat := ⟨_, rfl⟩
  obtain ⟨b, hb⟩ : ∃ b, j + a = k + b := ⟨j + a - k, by omega⟩
  have shifted : (d * 2 ^ j) <<< a = m * 2 ^ b := by
    rw [Nat.shiftLeft_eq, Nat.mul_assoc, ← Nat.pow_add, hb, Nat.pow_add, ← Nat.mul_assoc, same]
  rw [UnpackedFloat.round, target, decreaseExponent, ← ha, shifted]
  exact h.roundWithAccuracy (by omega) s pos

end BlockStage.Binary
