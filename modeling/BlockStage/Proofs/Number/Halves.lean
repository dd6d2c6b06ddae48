import BlockStage.Proofs.Number.Doubles

/-!
# Halves of integers as doubles

Half an integer of up to 53 bits is a double (`Binary.Halves.ofInt`, `ofHalf`). Sums and products of such doubles
are exact as long as they are such halves again (`Binary.Halves.add`, `mul`).
-/

namespace BlockStage.Binary

open Float.Model Float.Model.UnpackedFloat

variable {m : Nat} {x y : Float}

/-! ## Signs -/

theorem exists_apply (c : Int) : ∃ s : Sign, c = s.apply c.natAbs := by
  rcases Int.natAbs_eq c with more | less
  · exact ⟨.positive, more⟩
  · exact ⟨.negative, less⟩

theorem apply_mul_apply (s s' : Sign) (d d' : Nat) : s.apply d * s'.apply d' = (s * s').apply (d * d' : Nat) := by
  cases s <;> cases s' <;> rw [Int.natCast_mul]
  · exact Int.neg_mul_neg _ _
  · exact Int.neg_mul _ _
  · exact Int.mul_neg _ _
  · rfl

theorem apply_mul (s : Sign) (d m : Nat) : s.apply ((d * m : Nat) : Int) = s.apply d * m := by
  cases s <;> simp [Sign.apply]

theorem normalize_apply (s z : Sign) (ne : m ≠ 0) (e : Int) :
    UnpackedFloat.normalize .binary64 (s.apply m) e z = UnpackedFloat.round .binary64 s m e := by
  unfold UnpackedFloat.normalize
  cases s with
  | negative =>
    rw [compare_lt_iff_lt.2 (show Sign.apply .negative m < 0 from Int.neg_neg_of_pos (by omega))]
    exact congrArg (UnpackedFloat.round _ _ · e) (by simp [Sign.apply])
  | positive =>
    rw [compare_gt_iff_gt.2 (show Sign.apply .positive m > 0 from Int.natCast_pos.2 (by omega))]
    rfl

theorem signed_natAbs (n : Int) : signed (decide (n < 0)) n.natAbs = n := by
  by_cases neg : n < 0
  · rw [signed, if_pos (decide_eq_true neg)]
    omega
  · rw [signed, if_neg (by simpa using neg)]
    omega

theorem signed_mul (neg : Bool) (m j : Nat) : signed neg (m * j) = signed neg m * j := by
  cases neg <;> simp [signed]

/-! ## Taking doubles apart -/

/-- What the parts of a double say it is. -/
def dyadicOf : UnpackedFloat → Option Dyadic
  | .zero s => some ⟨s == .negative, 0, leastExp⟩
  | .finite s m e _ => some ⟨s == .negative, m, e⟩
  | _ => none

theorem dyadic?_eq (x : Float) : dyadic? x = dyadicOf (parts x) := by
  have below : x.toBits.toNat < 2 ^ 64 := x.toBits.toNat_lt
  have exponent : (@unpackExponent .binary64 x.toBits.toBitVec).toNat = x.toBits.toNat / 2 ^ 52 % 2048 := by
    rw [unpackExponent_def, BitVec.extractLsb'_toNat, Nat.shiftRight_eq_div_pow]
    rfl
  have mantissa : (@unpackMantissa .binary64 x.toBits.toBitVec).toNat = x.toBits.toNat % 2 ^ 52 := by
    rw [unpackMantissa_def, BitVec.extractLsb'_toNat, Nat.shiftRight_zero]
    rfl
  have signBit : (@unpackSign .binary64 x.toBits.toBitVec).toNat = x.toBits.toNat / 2 ^ 63 % 2 := by
    rw [unpackSign_def, BitVec.extractLsb'_toNat, Nat.shiftRight_eq_div_pow]
    rfl
  have sign : decide (twoTo 63 ≤ x.toBits.toNat) =
      (Sign.ofBitVec (@unpackSign .binary64 x.toBits.toBitVec) == .negative) := by
    unfold Sign.ofBitVec
    split <;> rename_i bit <;> simp only [← BitVec.toNat_inj, signBit] at bit
    · exact decide_eq_false (show ¬ 2 ^ 63 ≤ x.toBits.toNat by simp at bit; omega)
    · exact decide_eq_true (show 2 ^ 63 ≤ x.toBits.toNat by simp at bit; omega)
  show _ = dyadicOf (UnpackedFloat.unpack .binary64 x.toBits.toBitVec)
  unfold UnpackedFloat.unpack dyadic?
  simp only [← BitVec.toNat_inj, exponent, mantissa, sign, show twoTo mantissaBits = 2 ^ 52 from rfl,
    show (-1#11).toNat = 2047 from rfl, show (0#11).toNat = 0 from rfl, show (0#52).toNat = 0 from rfl]
  by_cases top : x.toBits.toNat / 2 ^ 52 % 2048 = 2047
  · rw [if_pos top, if_pos top]
    split <;> rfl
  rw [if_neg top, if_neg top]
  by_cases bottom : x.toBits.toNat / 2 ^ 52 % 2048 = 0
  · rw [if_pos bottom, if_pos bottom]
    split
    · next zero =>
      rw [zero]
      rfl
    · simp only [dyadicOf, bottom]
      rfl
  · rw [if_neg bottom, if_neg bottom]
    simp only [dyadicOf, toNat_implicit, mantissa]
    have bias (f : Int) : leastExp + (f - 1) = f - ((1023 : Nat) + (52 : Nat)) := by
      simp only [leastExp]
      omega
    rw [bias]
    rfl

/-! ## Halves -/

/-- The parts of a double that is half an integer. Zero may have either sign. -/
inductive Halves : UnpackedFloat → Int → Prop
  | zero (s : Sign) : Halves (.zero s) 0
  | finite (s : Sign) {m d k : Nat} {e : Int} {pos : 0 < m} (normal : Normal m e) (whole : d * 2 ^ k = m)
    (half : e = -1 - k) : Halves (.finite s m e pos) (s.apply d)

namespace Halves

variable {f : UnpackedFloat} {a b c : Int}

theorem repacked (h : Halves f a) : Halves (repacked f) a := by
  cases h with
  | zero s =>
    rw [repacked_zero]
    exact .zero s
  | finite s normal whole half =>
    rw [normal.repacked]
    exact .finite s normal whole half

theorem normalize (few : c.natAbs < 2 ^ 53) (k : Nat) (z : Sign) :
    Halves (UnpackedFloat.normalize .binary64 (c * (2 ^ k : Nat)) (-1 - k) z) c := by
  obtain ⟨s, signed⟩ := exists_apply c
  generalize c.natAbs = d at signed few
  subst signed
  by_cases ne : d = 0
  · subst ne
    cases s <;> simp [Sign.apply, UnpackedFloat.normalize] <;> exact .zero z
  · have bits := log2_le ne few
    obtain ⟨least, below, -, -⟩ := normal_leading ne few
    have normal : Normal (leading d) (-1 - (52 - d.log2 : Nat)) := ⟨least, below, by omega, by omega⟩
    rw [← apply_mul, normalize_apply s z (Nat.mul_ne_zero ne (Nat.two_pow_pos k).ne'),
      normal.round rfl rfl s (leading_pos ne)]
    exact .finite s normal rfl rfl

theorem add (hx : Halves (parts x) a) (hy : Halves (parts y) b) (few : (a + b).natAbs < 2 ^ 53) :
    Halves (parts (x + y)) (a + b) := by
  have sum : parts (x + y) = Binary.repacked (.add .binary64 (parts x) (parts y)) := rfl
  rw [sum]
  apply repacked
  generalize parts x = f at hx
  generalize parts y = g at hy
  cases hx with
  | zero s =>
    cases hy with
    | zero s' => cases s <;> cases s' <;> exact .zero _
    | finite s' normal whole half => rw [Int.zero_add]; exact .finite s' normal whole half
  | @finite s m d k e pos normal whole half =>
    cases hy with
    | zero s' => rw [Int.add_zero]; exact .finite s normal whole half
    | @finite s' m' d' k' e' pos' normal' whole' half' =>
      obtain ⟨j, hj⟩ : ∃ j, j = max k k' := ⟨_, rfl⟩
      have aligned : ∀ {m d k : Nat} {e : Int}, d * 2 ^ k = m → e = -1 - k → k ≤ j →
          (decreaseExponent m e (-1 - j)).1 = d * 2 ^ j := by
        rintro _ d k _ rfl rfl le
        rw [decreaseExponent, Nat.shiftLeft_eq, Nat.mul_assoc, ← Nat.pow_add,
          show k + ((-1 - k : Int) - (-1 - j)).toNat = j by omega]
      simp only [UnpackedFloat.add]
      rw [show min e e' = -1 - j by omega, aligned whole half (by omega), aligned whole' half' (by omega), apply_mul,
        apply_mul, ← Int.add_mul]
      exact normalize few j _

/-- A product of halves is in quarters. It is exact if these are halves. -/
theorem mul (hx : Halves (parts x) a) (hy : Halves (parts y) b) (half : a * b = 2 * c) (few : c.natAbs < 2 ^ 53) :
    Halves (parts (x * y)) c := by
  rw [parts_mul]
  apply repacked
  generalize parts x = f at hx
  generalize parts y = g at hy
  cases hx with
  | zero s =>
    obtain rfl : c = 0 := by omega
    cases hy <;> exact .zero _
  | @finite s m d k e pos normal whole exp =>
    cases hy with
    | zero s' =>
      obtain rfl : c = 0 := by omega
      exact .zero _
    | @finite s' m' d' k' e' pos' normal' whole' exp' =>
      rw [apply_mul_apply] at half
      change Halves (UnpackedFloat.roundWithAccuracy _ (s * s') _ _ _) c
      generalize s * s' = r at half ⊢
      obtain ⟨n, rfl, twice⟩ : ∃ n : Nat, c = r.apply n ∧ d * d' = n * 2 := by
        refine ⟨c.natAbs, ?_⟩
        generalize d * d' = m at half ⊢
        cases r <;> simp only [Sign.apply] at half ⊢ <;> omega
      have few : n < 2 ^ 53 := by
        cases r <;> simp only [Sign.apply] at few <;> omega
      have product : m * m' = n * 2 ^ (k + k' + 1) := by
        rw [← whole, ← whole', Nat.mul_mul_mul_comm, twice, ← Nat.pow_add, Nat.mul_assoc, ← Nat.pow_succ']
      have large : 2 ^ 52 * 2 ^ 52 ≤ m * m' := Nat.mul_le_mul normal.least normal'.least
      have ne : n ≠ 0 := by
        rintro rfl
        omega
      have bits := log2_le ne few
      obtain ⟨least, below, -, -⟩ := normal_leading ne few
      have normal : Normal (leading n) (-1 - (52 - n.log2 : Nat)) := ⟨least, below, by omega, by omega⟩
      obtain ⟨j, hj⟩ : ∃ j, k + k' + 1 = 52 - n.log2 + j := by
        refine Nat.exists_eq_add_of_le (Nat.le_of_not_lt fun less => ?_)
        have small := Nat.mul_le_mul_left n (Nat.pow_le_pow_right (n := 2) (by decide) (Nat.le_of_lt less))
        rw [← product] at small
        exact absurd (Nat.le_trans large small) (Nat.not_le_of_lt (Nat.lt_trans below (by decide)))
      rw [product, hj, Nat.pow_add, ← Nat.mul_assoc]
      change Halves (UnpackedFloat.roundWithAccuracy _ r (leading n * 2 ^ j) _ _) _
      rw [normal.roundWithAccuracy (by omega) r (leading_pos ne)]
      exact .finite r normal rfl rfl

/-! ## Reading halves -/

/-- A double that is half an integer is taken apart into what makes the integer, and a power of two. -/
theorem dyadic (h : Halves (parts x) a) :
    ∃ neg, ∃ k : Nat, dyadic? x = some ⟨neg, a.natAbs * 2 ^ k, -1 - k⟩ ∧ signed neg a.natAbs = a := by
  rw [dyadic?_eq]
  generalize parts x = p at h
  cases h with
  | zero s => exact ⟨s == .negative, 1073, by rw [Int.natAbs_zero, Nat.zero_mul]; rfl, by cases s <;> rfl⟩
  | @finite s m d k e pos normal whole half =>
    have size : (s.apply d).natAbs = d := by cases s <;> simp [Sign.apply]
    rw [size]
    exact ⟨s == .negative, k, by rw [whole, ← half]; rfl, by cases s <;> rfl⟩

theorem truncate (h : Halves (parts x) a) : truncate? x = .ok (a.tdiv 2) := by
  obtain ⟨neg, k, apart, sign⟩ := h.dyadic
  have halved : a.natAbs * 2 ^ k / twoTo (k + 1) = a.natAbs / 2 := by
    show a.natAbs * 2 ^ k / 2 ^ (k + 1) = _
    rw [Nat.pow_succ', Nat.mul_div_mul_right _ _ (Nat.two_pow_pos k)]
  rw [truncate?, apart]
  dsimp only
  rw [if_neg (by omega), show (-(-1 - (k : Int))).toNat = k + 1 by omega, halved]
  generalize a.natAbs = m at sign
  subst sign
  cases neg
  · rfl
  · exact congrArg Except.ok (Int.neg_tdiv (m : Int) 2).symm

theorem compareInt (h : Halves (parts x) a) (n : Int) : compareInt? n x = some (compare (2 * n) a) := by
  obtain ⟨neg, k, apart, sign⟩ := h.dyadic
  have whole : a.natAbs * 2 ^ k * twoTo 0 = a.natAbs * 2 ^ k := Nat.mul_one _
  rw [compareInt?, apart]
  simp only [aligned]
  rw [show min (0 : Int) (-1 - k) = -1 - k by omega, show ((0 : Int) - (-1 - k)).toNat = k + 1 by omega,
    Int.sub_self, Int.toNat_zero, whole, signed_mul, signed_mul, signed_natAbs, sign,
    show twoTo (k + 1) = 2 * 2 ^ k from Nat.pow_succ', Int.natCast_mul, ← Int.mul_assoc, Int.mul_comm n]
  simp only [← cmp_eq_compare, cmp_mul_pos_right (Int.natCast_pos.2 (Nat.two_pow_pos k))]
  rfl

/-! ## Making halves -/

theorem isSome_dyadic (h : Halves (parts x) a) : (dyadic? x).isSome = true := by
  obtain ⟨_, _, apart, -⟩ := h.dyadic
  rw [apart]
  rfl

theorem nearest (neg : Bool) {n j : Nat} (le : j ≤ 1) (few : n < 2 ^ (52 + j)) :
    Halves (parts (Binary.nearest neg n (2 ^ j))) (signed neg (n * 2 ^ (1 - j))) := by
  have few' : n < 2 ^ 53 := Nat.lt_of_lt_of_le few (Nat.pow_le_pow_right (by decide) (by omega))
  by_cases ne : n = 0
  · subst ne
    rw [Nat.zero_mul, Binary.nearest, if_pos rfl]
    cases neg <;> exact .zero _
  · have short : n.log2 < 52 + j := (Nat.log2_lt ne).2 few
    obtain ⟨k, hk⟩ : ∃ k, 1 - j + k = 52 - n.log2 := ⟨52 - n.log2 - (1 - j), by omega⟩
    have whole : n * 2 ^ (1 - j) * 2 ^ k = leading n := by rw [Nat.mul_assoc, ← Nat.pow_add, hk, leading]
    obtain ⟨least, below, -, -⟩ := normal_leading ne few'
    have sign : signed neg (n * 2 ^ (1 - j)) = (signOf neg).apply (n * 2 ^ (1 - j) : Nat) := by cases neg <;> rfl
    rw [parts_nearest_scaled neg le ne few' (leading_pos ne), sign]
    exact .finite _ ⟨least, below, by omega, by omega⟩ whole (by omega)

theorem ofInt {n : Int} (few : n.natAbs < 2 ^ 52) : ∃ x, ofInt? n = .ok x ∧ Halves (parts x) (2 * n) := by
  have made := nearest (decide (n < 0)) (j := 0) (by decide) few
  rw [signed_mul, signed_natAbs, Int.mul_comm] at made
  exact ⟨_, if_pos made.isSome_dyadic, made⟩

theorem ofHalf {n : Int} (few : n.natAbs < 2 ^ 53) : ∃ x, ofQuotient? n 2 = .ok x ∧ Halves (parts x) n := by
  have made := nearest (decide (n < 0)) (j := 1) (by decide) few
  rw [signed_mul, signed_natAbs, show n * ((2 ^ (1 - 1) : Nat) : Int) = n from Int.mul_one n] at made
  rw [ofQuotient?, if_neg (by decide), show (decide (n < 0) != decide ((2 : Int) < 0)) = decide (n < 0) from
    Bool.xor_false _]
  exact ⟨_, if_pos made.isSome_dyadic, made⟩

end Halves

end BlockStage.Binary
