import BlockStage.Proofs.Number.Halves

/-!
# Rounding errors

The double that an operation gives differs from the exact result by at most its `2 ^ 52`-nd part, as long as that
result is not huge or tiny (`Binary.Stands.mul`, `div`, `add`, `sub`, `Binary.Nears.ofQuotient`). A double is rounded
to an integer that is at most a half away (`Binary.Stands.round?`).
-/

namespace BlockStage.Binary

open Float.Model Float.Model.UnpackedFloat

variable {m k : Nat} {f g : UnpackedFloat} {x y z : ℚ}

/-- The parts of a double that stands for a number, which is a multiple of `2 ^ -k`. -/
inductive Stands (k : Nat) : UnpackedFloat → ℚ → Prop
  | zero (s : Sign) : Stands k (.zero s) 0
  | finite (s : Sign) {m : Nat} {e : Int} {pos : 0 < m} (normal : Normal m e) (fine : -k ≤ e) :
    Stands k (.finite s m e pos) (s.apply m * 2 ^ e)

/-- The parts of a double that differs from a number by at most its `2 ^ 52`-nd part. -/
def Nears (k : Nat) (f : UnpackedFloat) (z : ℚ) : Prop := ∃ x, Stands k f x ∧ |x - z| ≤ |z| / 2 ^ 52

/-- Neither huge nor tiny. -/
structure Moderate (k : Nat) (z : ℚ) : Prop where
  few : k ≤ 1000
  low : 2 ^ (-k : Int) ≤ z
  high : z ≤ 2 ^ (200 : Int)

theorem Moderate.pos (h : Moderate k z) : 0 < z := (zpow_pos two_pos _).trans_le h.low

theorem abs_apply_mul (s : Sign) (d : Nat) (e : Int) : |(s.apply d : ℚ) * 2 ^ e| = d * 2 ^ e := by
  rw [abs_mul, abs_of_pos (zpow_pos (two_pos (α := ℚ)) e)]
  cases s <;> simp [Sign.apply]

theorem mul_zpow_shift (q : ℚ) (e : Int) (j : Nat) : q * 2 ^ e = q * 2 ^ j * 2 ^ (e - j) := by
  rw [zpow_sub₀ two_ne_zero, zpow_natCast]
  field_simp

theorem apply_mul_zpow (s : Sign) (d : Nat) (e : Int) (j : Nat) :
    (s.apply d : ℚ) * 2 ^ e = (s.apply (d * 2 ^ j : Nat) : Int) * 2 ^ (e - j) := by
  rw [apply_mul, mul_zpow_shift _ e j]
  push_cast
  rfl

theorem Halves.stands {a : Int} (h : Halves f a) (fine : 53 ≤ k) : Stands k f (a / 2) := by
  cases h with
  | zero s => simpa using Stands.zero s
  | @finite s m d j e pos normal whole half =>
    have same : ((s.apply d : Int) : ℚ) / 2 = s.apply m * 2 ^ e := by
      rw [← whole, half, ← apply_mul_zpow, zpow_neg_one, div_eq_mul_inv]
    have short : j < 53 := (Nat.pow_lt_pow_iff_right (a := 2) (by decide)).1
      (Nat.lt_of_le_of_lt (Nat.le_of_dvd pos (whole ▸ Nat.dvd_mul_left _ _)) normal.below)
    rw [same]
    exact .finite s normal (by omega)

namespace Stands

theorem repacked (h : Stands k f x) : Stands k (repacked f) x := by
  cases h with
  | zero s =>
    rw [repacked_zero]
    exact .zero s
  | finite s normal fine =>
    rw [normal.repacked]
    exact .finite s normal fine

theorem neg (h : Stands k f x) : Stands k f.neg (-x) := by
  cases h with
  | zero s =>
    rw [neg_zero]
    exact .zero _
  | @finite s m e pos normal fine =>
    have sign : (-s).apply m = -s.apply m := by
      cases s
      · exact (Int.neg_neg _).symm
      · rfl
    rw [← neg_mul, ← Int.cast_neg, ← sign]
    exact .finite _ normal fine

theorem nears {j : Nat} (h : Stands k f x) (le : k ≤ j) : Nears j (Binary.repacked f) x := by
  refine ⟨x, ?_, by rw [sub_self, abs_zero]; positivity⟩
  cases h with
  | zero s => exact (Stands.zero s).repacked
  | finite s normal fine => exact (Stands.finite s normal (by omega)).repacked

theorem exists_zero (h : Stands k f 0) : ∃ s, f = .zero s := by
  generalize hx : (0 : ℚ) = x at h
  cases h with
  | zero s => exact ⟨s, rfl⟩
  | @finite s m e pos =>
    have size := abs_apply_mul s m e
    rw [← hx, abs_zero, eq_comm, mul_eq_zero, Nat.cast_eq_zero] at size
    exact absurd size (not_or.2 ⟨pos.ne', (zpow_pos two_pos _).ne'⟩)

theorem positive (h : Stands k f x) (pos : 0 < x) :
    ∃ m e hm, f = .finite .positive m e hm ∧ Normal m e ∧ x = m * 2 ^ e := by
  cases h with
  | zero s => exact absurd pos (lt_irrefl 0)
  | @finite s m e hm normal =>
    cases s with
    | positive => exact ⟨m, e, hm, rfl, normal, rfl⟩
    | negative =>
      have : (0 : ℚ) < m * 2 ^ e := mul_pos (by exact_mod_cast hm) (zpow_pos two_pos _)
      simp only [Sign.apply, Int.cast_neg, Int.cast_natCast, neg_mul] at pos
      linarith

theorem abs (h : Stands k f x) : Stands k (Binary.repacked f.abs) |x| := by
  cases h with
  | zero s =>
    rw [abs_zero]
    exact (Stands.zero .positive).repacked
  | finite s normal fine =>
    rw [abs_apply_mul]
    exact (Stands.finite .positive normal fine).repacked

end Stands

/-! ## Order -/

theorem Normal.lt {n : Nat} {e e' : Int} (h : Normal m e) (h' : Normal n e') (lower : e < e') :
    (m : ℚ) * 2 ^ e < n * 2 ^ e' := by
  have below : (m : ℚ) < 2 * n := by exact_mod_cast (by have := h.below; have := h'.least; omega)
  have step : (2 : ℚ) * 2 ^ e ≤ 2 ^ e' := by
    rw [← zpow_one_add₀ two_ne_zero]
    exact (zpow_le_zpow_iff_right₀ one_lt_two).2 (by omega)
  calc (m : ℚ) * 2 ^ e < 2 * n * 2 ^ e := mul_lt_mul_of_pos_right below (zpow_pos two_pos _)
    _ = n * (2 * 2 ^ e) := by ring
    _ ≤ n * 2 ^ e' := mul_le_mul_of_nonneg_left step (Nat.cast_nonneg _)

/-- Doubles are ordered as the numbers that they stand for: first by their exponents. -/
theorem Normal.compare {n : Nat} {e e' : Int} (h : Normal m e) (h' : Normal n e') :
    (compare e e').then (compare m n) = Ord.compare ((m : ℚ) * 2 ^ e) (n * 2 ^ e') := by
  rcases lt_trichotomy e e' with lower | rfl | higher
  · rw [compare_lt_iff_lt.2 lower, compare_lt_iff_lt.2 (h.lt h' lower)]
    rfl
  · rw [compare_eq_iff_eq.2 rfl, ← cmp_eq_compare, ← cmp_eq_compare, cmp_mul_pos_right (zpow_pos two_pos _),
      Nat.strictMono_cast.cmp_map_eq]
    rfl
  · rw [compare_gt_iff_gt.2 higher, compare_gt_iff_gt.2 (h'.lt h higher)]
    rfl

namespace Stands

theorem compare {j : Nat} (hx : Stands k f x) (hy : Stands j g y) (nonneg : 0 ≤ x) (nonneg' : 0 ≤ y) :
    f.compare g = some (Ord.compare x y) := by
  rcases nonneg.eq_or_lt with rfl | pos
  · obtain ⟨s, rfl⟩ := hx.exists_zero
    rcases nonneg'.eq_or_lt with rfl | pos'
    · obtain ⟨s', rfl⟩ := hy.exists_zero
      exact congrArg some (compare_eq_iff_eq.2 rfl).symm
    · obtain ⟨m, e, hm, rfl, -⟩ := hy.positive pos'
      exact congrArg some (compare_lt_iff_lt.2 pos').symm
  · obtain ⟨m, e, hm, rfl, normal, rfl⟩ := hx.positive pos
    rcases nonneg'.eq_or_lt with rfl | pos'
    · obtain ⟨s', rfl⟩ := hy.exists_zero
      exact congrArg some (compare_gt_iff_gt.2 pos).symm
    · obtain ⟨m', e', hm', rfl, normal', rfl⟩ := hy.positive pos'
      exact congrArg some (normal.compare normal')

theorem not_abs_le {a b : Float} {j : Nat} (hx : Stands k (parts a) x) (hy : Stands j (parts b) y) (less : |y| < |x|) :
    ¬ a.abs ≤ b.abs := by
  rw [le_iff, parts_abs, parts_abs, hx.abs.compare hy.abs (abs_nonneg _) (abs_nonneg _), compare_gt_iff_gt.2 less]
  exact Bool.false_ne_true

end Stands

/-! ## Rounding -/

/-- A number between two neighbours in units of the last place. -/
structure Between (c : Nat) (e : Int) (z : ℚ) : Prop where
  least : 2 ^ 52 ≤ c
  below : c < 2 ^ 53
  low : c * 2 ^ e ≤ z
  high : z ≤ (c + 1) * 2 ^ e

namespace Between

variable {c : Nat} {e : Int}

theorem exponent (h : Between c e z) (moderate : Moderate k z) : -(k + 53 : Nat) ≤ e ∧ e ≤ 148 := by
  have unit : (0 : ℚ) < 2 ^ e := zpow_pos two_pos _
  have least : (2 : ℚ) ^ 52 ≤ c := by exact_mod_cast h.least
  have below : (c : ℚ) + 1 ≤ 2 ^ 53 := by exact_mod_cast h.below
  have small := moderate.low.trans (h.high.trans (mul_le_mul_of_nonneg_right below unit.le))
  have large := (mul_le_mul_of_nonneg_right least unit.le).trans (h.low.trans moderate.high)
  rw [← zpow_natCast, ← zpow_add₀ two_ne_zero] at small large
  have small := (zpow_le_zpow_iff_right₀ one_lt_two).1 small
  have large := (zpow_le_zpow_iff_right₀ one_lt_two).1 large
  omega

/-- Either neighbour is near. -/
theorem near (h : Between c e z) (low : c * 2 ^ e ≤ x) (high : x ≤ (c + 1) * 2 ^ e) : |x - z| ≤ z / 2 ^ 52 := by
  have least : (2 : ℚ) ^ 52 ≤ c := by exact_mod_cast h.least
  have unit : (2 : ℚ) ^ e ≤ z / 2 ^ 52 := (le_div_iff₀ (by positivity)).2
    ((mul_comm _ _).trans_le ((mul_le_mul_of_nonneg_right least (zpow_pos two_pos _).le).trans h.low))
  have := h.low
  have := h.high
  exact abs_le.2 ⟨by linarith, by linarith⟩

theorem stands (h : Between c e z) (moderate : Moderate k z) {m : Nat} (pos : 0 < m) (s : Sign) (e' : Int)
    (either : e' = e ∧ c ≤ m ∧ m ≤ c + 1 ∧ m < 2 ^ 53 ∨ e' = e + 1 ∧ m = 2 ^ 52 ∧ c + 1 = 2 ^ 53) :
    Normal m e' ∧ Nears (k + 53) (.finite s m e' pos) (s.apply 1 * z) := by
  obtain ⟨small, large⟩ := h.exponent moderate
  have few := moderate.few
  have normal : Normal m e' := by
    have := h.least
    constructor <;> omega
  refine ⟨normal, _, .finite s normal (by omega), ?_⟩
  have near : |m * 2 ^ e' - z| ≤ z / 2 ^ 52 := by
    have unit : (0 : ℚ) ≤ 2 ^ e := (zpow_pos two_pos _).le
    rcases either with ⟨rfl, low, high, -⟩ | ⟨rfl, rfl, full⟩
    · exact h.near (mul_le_mul_of_nonneg_right (by exact_mod_cast low) unit)
        (mul_le_mul_of_nonneg_right (by exact_mod_cast high) unit)
    · have full : (c : ℚ) + 1 = 2 ^ 53 := by exact_mod_cast full
      have top : ((2 ^ 52 : Nat) : ℚ) * 2 ^ (e + 1) = (c + 1) * 2 ^ e := by
        rw [full, zpow_add_one₀ two_ne_zero]
        push_cast
        ring
      rw [top]
      exact h.near (mul_le_mul_of_nonneg_right (by linarith) unit) le_rfl
  cases s with
  | positive => simpa [Sign.apply, abs_of_pos moderate.pos] using near
  | negative =>
    rw [abs_sub_comm] at near
    simpa [Sign.apply, abs_of_pos moderate.pos, neg_add_eq_sub] using near

end Between

/-- Rounding a positive number whose leading bits are those of `m`. -/
theorem Nears.round (s : Sign) {e : Int} (acc : Accuracy) (bits : 52 ≤ m.log2) (low : m * 2 ^ e ≤ z)
    (high : z ≤ (m + 1) * 2 ^ e) (moderate : Moderate k z) :
    Nears (k + 53) (repacked (roundWithAccuracy .binary64 s m e acc)) (s.apply 1 * z) := by
  obtain ⟨j, hj⟩ := Nat.exists_eq_add_of_le bits
  obtain ⟨least, below⟩ := div_two_pow_bounds hj
  have unit : (2 : ℚ) ^ (e + j) = 2 ^ j * 2 ^ e := by rw [zpow_add₀ two_ne_zero, zpow_natCast, mul_comm]
  have fine : (0 : ℚ) < 2 ^ e := zpow_pos two_pos _
  have between : Between (m / 2 ^ j) (e + j) z := by
    refine ⟨least, below, ?_, ?_⟩
    · have floor : ((m / 2 ^ j : Nat) : ℚ) * 2 ^ j ≤ m := by exact_mod_cast Nat.div_mul_le_self m (2 ^ j)
      rw [unit, ← mul_assoc]
      exact (mul_le_mul_of_nonneg_right floor fine.le).trans low
    · have ceil : (m : ℚ) + 1 ≤ ((m / 2 ^ j : Nat) + 1) * 2 ^ j := by
        rw [add_mul, one_mul]
        exact_mod_cast Nat.lt_div_mul_add (Nat.two_pow_pos j) (a := m)
      rw [unit, ← mul_assoc]
      exact high.trans (mul_le_mul_of_nonneg_right ceil fine.le)
  have small := (between.exponent moderate).1
  have few := moderate.few
  obtain ⟨m', e', pos, rounded, -, below', either⟩ := roundWithAccuracy_normal s hj (e := e) (by omega) acc
  obtain ⟨normal, near⟩ := between.stands moderate pos s e' (by omega)
  rw [rounded, normal.repacked]
  exact near

theorem Nears.exact (s : Sign) {e : Int} (bits : 52 ≤ m.log2) (moderate : Moderate k (m * 2 ^ e)) :
    Nears (k + 53) (repacked (roundWithAccuracy .binary64 s m e .exact)) (s.apply m * 2 ^ e) := by
  have sign : ((s.apply m : Int) : ℚ) * 2 ^ e = s.apply 1 * (m * 2 ^ e) := by
    rw [← mul_assoc]
    cases s <;> simp [Sign.apply]
  rw [sign]
  exact .round s .exact bits le_rfl (mul_le_mul_of_nonneg_right (by linarith) (zpow_pos two_pos _).le) moderate

/-! ## Operations -/

theorem Stands.mul {a b : Float} {j : Nat} (hx : Stands j (parts a) x) (hy : Stands j (parts b) y) (posx : 0 < x)
    (posy : 0 < y) (moderate : Moderate k (x * y)) : Nears (k + 53) (parts (a * b)) (x * y) := by
  obtain ⟨m, e, hm, apart, normal, rfl⟩ := hx.positive posx
  obtain ⟨m', e', hm', apart', normal', rfl⟩ := hy.positive posy
  have product : (m * 2 ^ e * (m' * 2 ^ e') : ℚ) = (m * m' : Nat) * 2 ^ (e + e') := by
    rw [zpow_add₀ two_ne_zero]
    push_cast
    ring
  have long : 52 ≤ (m * m').log2 := (Nat.le_log2 (Nat.mul_ne_zero hm.ne' hm'.ne')).2
    (Nat.le_trans normal.least (Nat.le_mul_of_pos_right m hm'))
  rw [product] at moderate ⊢
  rw [parts_mul, apart, apart']
  exact .exact .positive long moderate

theorem Stands.div {a b : Float} {j : Nat} (hx : Stands j (parts a) x) (hy : Stands j (parts b) y) (posx : 0 < x)
    (posy : 0 < y) (moderate : Moderate k (x / y)) : Nears (k + 53) (parts (a / b)) (x / y) := by
  obtain ⟨m, e, hm, apart, normal, rfl⟩ := hx.positive posx
  obtain ⟨m', e', hm', apart', normal', rfl⟩ := hy.positive posy
  have pos : (0 : ℚ) < m' := by exact_mod_cast hm'
  have few := moderate.few
  have quotient : (m * 2 ^ e / (m' * 2 ^ e') : ℚ) = m / m' * 2 ^ (e - e') := by
    rw [zpow_sub₀ two_ne_zero, mul_div_mul_comm]
  have scaled : (m / m' * 2 ^ (e - e') : ℚ) = (m * 2 ^ 53 : Nat) / m' * 2 ^ (e - e' - 53) := by
    rw [mul_zpow_shift _ (e - e') 53]
    push_cast
    ring
  have small : -k - 1 ≤ e - e' := by
    have double : m ≤ 2 * m' := by have := normal.below; have := normal'.least; omega
    have double : (m : ℚ) / m' ≤ 2 := (div_le_iff₀ pos).2 (by exact_mod_cast double)
    have least := (quotient ▸ moderate).low.trans (mul_le_mul_of_nonneg_right double (zpow_pos two_pos _).le)
    rw [← zpow_one_add₀ two_ne_zero] at least
    have := (zpow_le_zpow_iff_right₀ one_lt_two).1 least
    omega
  have core : divCore .binary64 m e m' e' =
      (m * 2 ^ 53 / m', e - e' - 53, accuracyOfFraction (m * 2 ^ 53 % m') m') := by
    have target : Format.targetExponent .binary64 (totalExponent m e - totalExponent m' e') = e - e' - 53 := by
      show max ((m.log2 : Int) + 1 + e - (m'.log2 + 1 + e') - (1 + 52 : Nat)) (3 - 2 ^ 10 - (1 + 52 : Nat)) = _
      rw [normal.log2, normal'.log2]
      omega
    rw [divCore, target, min_eq_right (by omega), show (e - e' - (e - e' - 53)).toNat = 53 by omega, Nat.shiftLeft_eq]
  have parted : parts (a / b) = Binary.repacked (.div .binary64 (parts a) (parts b)) := rfl
  rw [parted, apart, apart', UnpackedFloat.div, core]
  rw [quotient, scaled] at moderate ⊢
  have long : 52 ≤ (m * 2 ^ 53 / m').log2 := by
    have least : 2 ^ 52 ≤ m * 2 ^ 53 / m' := (Nat.le_div_iff_mul_le hm').2 (by
      have := normal.least; have := normal'.below; omega)
    exact (Nat.le_log2 (by omega)).2 least
  have low : ((m * 2 ^ 53 / m' : Nat) : ℚ) ≤ (m * 2 ^ 53 : Nat) / m' := Nat.cast_div_le
  have high : ((m * 2 ^ 53 : Nat) : ℚ) / m' ≤ (m * 2 ^ 53 / m' : Nat) + 1 := (div_le_iff₀ pos).2 (by
    rw [add_mul, one_mul]
    exact_mod_cast (Nat.lt_div_mul_add hm').le)
  have unit : (0 : ℚ) ≤ 2 ^ (e - e' - 53) := (zpow_pos two_pos _).le
  have near := Nears.round .positive (accuracyOfFraction (m * 2 ^ 53 % m') m') long
    (mul_le_mul_of_nonneg_right low unit) (mul_le_mul_of_nonneg_right high unit) moderate
  rw [show Sign.apply .positive 1 = 1 from rfl, Int.cast_one, one_mul] at near
  exact near

/-- Rounding an integer times a power of two. -/
theorem Nears.normalize {c e : Int} (sign : Sign) (moderate : c ≠ 0 → Moderate k |c * 2 ^ e|) :
    Nears (k + 53) (repacked (UnpackedFloat.normalize .binary64 c e sign)) (c * 2 ^ e) := by
  obtain ⟨s, signed⟩ := exists_apply c
  generalize c.natAbs = d at signed
  subst signed
  by_cases zero : d = 0
  · subst zero
    have nothing : s.apply (0 : Nat) = 0 := by cases s <;> rfl
    rw [nothing, Int.cast_zero, zero_mul]
    exact (Stands.zero sign).nears le_rfl
  have moderate : Moderate k (d * 2 ^ e) := abs_apply_mul s d e ▸ moderate (by cases s <;> simp [Sign.apply, zero])
  have few := moderate.few
  have small : -k - 1 ≤ d.log2 + e := by
    have below : (d : ℚ) ≤ 2 ^ (d.log2 + 1) := by exact_mod_cast Nat.lt_log2_self.le
    have least := moderate.low.trans (mul_le_mul_of_nonneg_right below (zpow_pos two_pos _).le)
    rw [← zpow_natCast, ← zpow_add₀ two_ne_zero] at least
    have := (zpow_le_zpow_iff_right₀ one_lt_two).1 least
    omega
  have target : Format.targetExponent .binary64 (totalExponent d e) = d.log2 + e - 52 := by
    show max ((d.log2 : Int) + 1 + e - (1 + 52 : Nat)) (3 - 2 ^ 10 - (1 + 52 : Nat)) = _
    omega
  obtain ⟨j, hj⟩ : ∃ j, j = 52 - d.log2 := ⟨_, rfl⟩
  have shifted : (d : ℚ) * 2 ^ e = (d * 2 ^ j : Nat) * 2 ^ (e - j) := by
    rw [mul_zpow_shift _ e j]
    push_cast
    rfl
  rw [normalize_apply s sign zero, UnpackedFloat.round, target, decreaseExponent,
    show (e - (d.log2 + e - 52)).toNat = j by omega, Nat.shiftLeft_eq, apply_mul_zpow s d e j]
  exact .exact s (by rw [log2_mul_two_pow zero]; omega) (shifted ▸ moderate)

/-- The sum of multiples of a power of two is one as well, so that it is not tiny unless it is zero. -/
theorem Stands.add (hx : Stands k f x) (hy : Stands k g y) (few : k ≤ 1000) (high : |x + y| ≤ 2 ^ (200 : Int)) :
    Nears (k + 53) (Binary.repacked (.add .binary64 f g)) (x + y) := by
  cases hx with
  | zero s =>
    rw [zero_add]
    cases hy with
    | zero s' => cases s <;> cases s' <;> exact (Stands.zero (k := k) _).nears (by omega)
    | finite s' normal fine => exact (Stands.finite s' normal fine).nears (by omega)
  | @finite s m e pos normal fine =>
    cases hy with
    | zero s' =>
      rw [add_zero]
      exact (Stands.finite s normal fine).nears (by omega)
    | @finite s' m' e' pos' normal' fine' =>
      have aligned {m : Nat} {e low : Int} (s : Sign) (le : low ≤ e) :
          (s.apply m : ℚ) * 2 ^ e = (s.apply (decreaseExponent m e low).1 : Int) * 2 ^ low := by
        rw [decreaseExponent, Nat.shiftLeft_eq, apply_mul_zpow s m e (e - low).toNat, Int.toNat_sub_of_le le,
          Int.sub_sub_self]
      rw [aligned s (min_le_left e e'), aligned s' (min_le_right e e'), ← add_mul, ← Int.cast_add] at high ⊢
      refine .normalize .positive fun ne => ⟨few, ?_, high⟩
      rw [abs_mul, abs_of_pos (zpow_pos (two_pos (α := ℚ)) _)]
      exact ((zpow_le_zpow_iff_right₀ one_lt_two).2 (le_min fine fine')).trans
        (le_mul_of_one_le_left (zpow_pos two_pos _).le (by exact_mod_cast Int.one_le_abs ne))

theorem Stands.sub (hx : Stands k f x) (hy : Stands k g y) (few : k ≤ 1000) (high : |x - y| ≤ 2 ^ (200 : Int)) :
    Nears (k + 53) (Binary.repacked (.sub .binary64 f g)) (x - y) := by
  have sum : UnpackedFloat.sub .binary64 f g = .add .binary64 f g.neg := by
    cases hx <;> cases hy <;> try rfl
    next s m e _ _ _ s' m' e' _ _ _ =>
      cases s'
      · exact congrArg (UnpackedFloat.normalize .binary64 · _ _) (Int.sub_neg _ _)
      · rfl
  rw [sub_eq_add_neg] at high ⊢
  rw [sum]
  exact hx.add hy.neg few high

/-! ## Integers -/

theorem Stands.dyadic {a : Float} (h : Stands k (parts a) x) :
    ∃ d, dyadic? a = some d ∧ signed d.neg d.mant * 2 ^ d.exp = x := by
  rw [dyadic?_eq]
  generalize parts a = f at h
  cases h with
  | zero s => exact ⟨_, rfl, by cases s <;> simp [signed]⟩
  | finite s normal => exact ⟨_, rfl, by cases s <;> rfl⟩

theorem Stands.round? {a : Float} (h : Stands k (parts a) x) : ∃ n : Int, round? a = .ok n ∧ Rounds n x := by
  obtain ⟨⟨neg, m, e⟩, apart, value⟩ := h.dyadic
  obtain ⟨d, hd, near⟩ : ∃ d : Nat, (if 0 ≤ e then m * twoTo e.toNat else divEven m (twoTo (-e).toNat)) = d ∧
      Rounds d (m * 2 ^ e) := by
    refine ⟨_, rfl, ?_⟩
    split
    · next whole =>
      obtain ⟨j, rfl⟩ := Int.eq_ofNat_of_zero_le whole
      exact .of_lt (by simp [twoTo])
    · next part =>
      obtain ⟨j, rfl⟩ : ∃ j : Nat, e = -j := ⟨(-e).toNat, by omega⟩
      have near := (divEven_near m (Nat.two_pow_pos j)).2.2
      rw [zpow_neg, zpow_natCast, ← div_eq_mul_inv, neg_neg, Int.toNat_natCast]
      exact_mod_cast near
  refine ⟨signed neg d, by rw [Binary.round?, apart, ← hd], ?_⟩
  rw [← value]
  cases neg with
  | false => exact near
  | true => simpa [signed] using near.neg

/-- The double nearest to a fraction. -/
theorem Nears.nearest {num den : Nat} (moderate : Moderate k (num / den)) :
    Nears (k + 53) (parts (Binary.nearest false num den)) (num / den) := by
  have hn : num ≠ 0 := by
    rintro rfl
    simpa using moderate.pos
  have hd : den ≠ 0 := by
    rintro rfl
    simpa using moderate.pos
  have few := moderate.few
  obtain ⟨e, least, below⟩ := exists_leadingAt hd hn
  have between : Between (leadingAt num den e) e (num / den) := by
    have next := mt (le_leadingAt_iff hd).2 (Nat.not_succ_le_self (leadingAt num den e))
    push_cast at next
    exact ⟨least, below, (le_leadingAt_iff hd).1 le_rfl, (not_le.1 next).le⟩
  obtain ⟨small, large⟩ := between.exponent moderate
  obtain ⟨floor, ceil, -⟩ := divEven_near (num * 2 ^ (-e).toNat)
    (Nat.mul_pos (Nat.pos_of_ne_zero hd) (Nat.two_pow_pos e.toNat))
  rw [← leadingAt] at floor ceil
  rw [nearest_of_leadingAt hd hn false least below (by omega) (by omega)]
  generalize divEven (num * 2 ^ (-e).toNat) (den * 2 ^ e.toNat) = r at *
  generalize leadingAt num den e = c at *
  -- A mantissa that is full makes the exponent one more, as the two stand side by side.
  obtain ⟨f, rest, size, hf, hrest, either⟩ : ∃ f rest : Nat, (e + 1074).toNat * 2 ^ 52 + r = f * 2 ^ 52 + rest ∧
      (f ≠ 0 ∧ f < 2047) ∧ rest < 2 ^ 52 ∧ (f - 1075 = e ∧ c ≤ 2 ^ 52 + rest ∧ 2 ^ 52 + rest ≤ c + 1 ∧
        2 ^ 52 + rest < 2 ^ 53 ∨ f - 1075 = e + 1 ∧ 2 ^ 52 + rest = 2 ^ 52 ∧ c + 1 = 2 ^ 53) := by
    by_cases full : r = 2 ^ 53
    · exact ⟨(e + 1076).toNat, 0, by omega, by omega, by omega, by omega⟩
    · exact ⟨(e + 1075).toNat, r - 2 ^ 52, by omega, by omega, by omega, by omega⟩
  rw [size, parts_ofMagnitude false hf.1 hf.2 hrest]
  have near := (between.stands moderate (by omega) .positive _ either).2
  rw [show Sign.apply .positive 1 = 1 from rfl, Int.cast_one, one_mul] at near
  exact near

theorem Stands.nearest (fine : 53 ≤ k) {n : Nat} (few : n < 2 ^ 52) :
    Stands k (parts (Binary.nearest false n 1)) n := by
  have stands := (Halves.nearest false (j := 0) (by decide) few).stands fine
  simpa [signed] using stands

section

variable {n m : Nat} (hn : n < 2 ^ 52) (hm : m < 2 ^ 52)

include hn hm

theorem compare_nearest :
    (parts (Binary.nearest false n 1)).compare (parts (Binary.nearest false m 1)) = some (compare n m) := by
  rw [(Stands.nearest le_rfl hn).compare (.nearest le_rfl hm) (Nat.cast_nonneg _) (Nat.cast_nonneg _), ← cmp_eq_compare,
    ← cmp_eq_compare, Nat.strictMono_cast.cmp_map_eq]

theorem nearest_lt : Binary.nearest false n 1 < Binary.nearest false m 1 ↔ n < m := by
  rw [lt_iff, compare_nearest hn hm, Option.some_inj, compare_lt_iff_lt]

theorem nearest_beq : (Binary.nearest false n 1 == Binary.nearest false m 1) = true ↔ n = m := by
  rw [beq_iff, compare_nearest hn hm, Option.some_inj, compare_eq_iff_eq]

end

theorem Stands.ofInt (fine : 53 ≤ k) {n : Int} (few : n.natAbs < 2 ^ 52) :
    ∃ c, ofInt? n = .ok c ∧ Stands k (parts c) n := by
  obtain ⟨c, made, halves⟩ := Halves.ofInt few
  have stands := halves.stands fine
  rw [Int.cast_mul, Int.cast_ofNat, mul_div_cancel_left₀ _ two_ne_zero] at stands
  exact ⟨c, made, stands⟩

theorem Stands.beq_zero {a : Float} (h : Stands k (parts a) x) (pos : 0 < x) : (a == 0) = false := by
  have zero : Stands 0 (parts 0) 0 := .zero .positive
  rw [Bool.eq_false_iff, ne_eq, beq_iff, h.compare zero pos.le le_rfl, compare_gt_iff_gt.2 pos]
  decide

theorem Nears.ofQuotient {a b : Int} (ha : 0 < a) (hb : 0 < b) (moderate : Moderate k (a / b)) :
    ∃ c, ofQuotient? a b = .ok c ∧ Nears (k + 53) (parts c) (a / b) := by
  obtain ⟨num, rfl⟩ := Int.eq_ofNat_of_zero_le ha.le
  obtain ⟨den, rfl⟩ := Int.eq_ofNat_of_zero_le hb.le
  simp only [Int.cast_natCast] at moderate ⊢
  obtain ⟨x, stands, near⟩ := Nears.nearest moderate
  obtain ⟨d, apart, -⟩ := stands.dyadic
  refine ⟨_, ?_, x, stands, near⟩
  rw [ofQuotient?, if_neg hb.ne', decide_eq_false ha.not_gt, decide_eq_false hb.not_gt, Int.natAbs_natCast,
    Int.natAbs_natCast]
  exact if_pos (Option.isSome_iff_exists.2 ⟨d, apart⟩)

end BlockStage.Binary
