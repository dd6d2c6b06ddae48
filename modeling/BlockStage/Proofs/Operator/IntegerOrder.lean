import BlockStage.Proofs.Number.Rounding
import BlockStage.Proofs.Operator.NumericTexts

/-!
# Comparing integers

Integers that are written in decimal are compared as numbers, unless one of them is negative: then the texts
are compared. Their order is that of the integers if only one has a sign; if both have one, the order of
their digits decides: `Comparison.holds_intText`, and `Comparison.integers_run` for the blocks.
-/

namespace BlockStage

open Run

/-! ## Numerals -/

namespace Reading

variable {cs : List Char}

theorem isDigit_of_isAsciiDigit {c : Char} (h : isAsciiDigit c = true) : Text.isDigit c = true := by
  rw [Text.isDigit, Text.decimalValue?, if_pos (isAsciiDigit_iff.1 h)]
  rfl

theorem looksNumeric_digits (h : Digits cs) (ne : cs ≠ []) : looksNumeric (String.ofList cs) = true := by
  obtain ⟨part, parts, split, joined⟩ := splitPoints_eq cs
  have single : parts = [] := by
    cases parts with
    | nil => rfl
    | cons p parts => exact absurd (h '.' (by rw [joined]; simp)) (by decide)
  subst single
  obtain rfl : cs = part := joined.trans (List.append_nil _)
  rw [looksNumeric, String.toList_ofList, split]
  simpa [ne] using fun c mem => isDigit_of_isAsciiDigit (h c mem)

theorem looksNumeric_natText (n : Nat) : looksNumeric (natText n) = true :=
  looksNumeric_digits (digits_toDigits n) Nat.toDigits_ne_nil

theorem digitsValue_dropWhile (cs : List Char) : digitsValue (cs.dropWhile (· == '0')) = digitsValue cs := by
  induction cs with
  | nil => rfl
  | cons c rest ih =>
    by_cases zero : c = '0'
    · subst zero
      exact ih
    · rw [List.dropWhile_cons_of_neg (by simpa using zero)]

theorem scaled_digits (h : cs.length ≤ 400) : scaled false cs 0 = Binary.nearest false (digitsValue cs) 1 := by
  have shorter := (List.dropWhile_sublist (l := cs) (· == '0')).length_le
  rw [← digitsValue_dropWhile cs, scaled]
  generalize cs.dropWhile (· == '0') = significant at shorter
  have reach : exponentReach = 400 := rfl
  cases significant with
  | nil => rfl
  | cons c rest =>
    have first : ((c :: rest).isEmpty || decide ((0 : Int) + (c :: rest).length < -exponentReach)) = false := by
      rw [List.isEmpty_cons, Bool.false_or]
      exact decide_eq_false (by omega)
    simp only [first, Bool.false_eq_true, if_false]
    rw [if_neg (by omega), Decimal.toDouble, Decimal.fraction, if_pos (Int.le_refl _)]
    exact congrArg (Binary.nearest false · 1) (Nat.mul_one _)

theorem float?_natText {n : Nat} (h : n < 10 ^ 9) : float? (natText n) = some (Binary.nearest false n 1) := by
  have digits := digits_toDigits n
  have plain : normalise (natText n) = Nat.toDigits 10 n := normalise_digits digits
  rw [float?_inked (fun c mem => .inl (digits c (plain ▸ mem))), plain, decimal?_digits _ digits Nat.toDigits_ne_nil,
    scaled_digits (Nat.le_trans ((Nat.length_toDigits_le_iff (by decide) (by decide)).2 h) (by decide)),
    digitsValue_toDigits]

theorem looksNumeric_intText (n : Int) : looksNumeric (intText n) = decide (0 ≤ n) := by
  rw [intText]
  split
  · next neg =>
    rw [decide_eq_false (by omega), Bool.eq_false_iff]
    intro looks
    have digit := isDigit_of_looksNumeric looks '-' (by simp)
    exact absurd digit (by decide)
  · next nonneg =>
    rw [decide_eq_true (by omega)]
    exact looksNumeric_natText _

end Reading

/-! ## Closeness of whole numbers -/

namespace Operator

open Binary

theorem stands_difference {n m : Nat} (hn : n < 10 ^ 9) (hm : m < 10 ^ 9) (ne : n ≠ m) :
    ∃ x, Stands 106 (parts (Binary.nearest false m 1 - Binary.nearest false n 1)) x ∧ 1 - 1 / 2 ^ 52 ≤ |x| := by
  have one_le : (1 : ℚ) ≤ |(m : ℚ) - n| := by exact_mod_cast Int.one_le_abs (show (m : Int) - n ≠ 0 by omega)
  have high : |(m : ℚ) - n| ≤ 2 ^ 30 := by exact_mod_cast (show |(m : Int) - n| ≤ 2 ^ 30 by rw [abs_le]; omega)
  obtain ⟨x, stands, near⟩ := (Stands.nearest (k := 53) le_rfl (show m < 2 ^ 52 by omega)).sub
    (Stands.nearest le_rfl (show n < 2 ^ 52 by omega)) (by decide) (high.trans (by norm_num))
  have apart := abs_sub_abs_le_abs_sub ((m : ℚ) - n) x
  rw [abs_sub_comm] at near
  exact ⟨x, stands, by linarith⟩

theorem stands_tolerance {n : Nat} (hn : n < 10 ^ 9) :
    ∃ x, Stands 83 (parts (closeness * Binary.nearest false n 1)) x ∧ |x| < 1 - 1 / 2 ^ 52 := by
  have normal : Normal 4835703278458517 (-82) := by constructor <;> decide
  have factor : Stands 83 (parts closeness) (4835703278458517 * 2 ^ (-82 : Int)) :=
    .finite .positive normal (by decide)
  rcases Nat.eq_zero_or_pos n with rfl | pos
  · exact ⟨0, .zero .positive, by norm_num⟩
  have least : (1 : ℚ) ≤ n := by exact_mod_cast pos
  have most : (n : ℚ) + 1 ≤ 10 ^ 9 := by exact_mod_cast hn
  have moderate : Moderate 30 (4835703278458517 * 2 ^ (-82 : Int) * n) :=
    ⟨by decide, by norm_num; linarith, by norm_num; linarith⟩
  obtain ⟨x, stands, near⟩ := factor.mul (.nearest (by decide) (by omega)) (by norm_num) (by linarith) moderate
  refine ⟨x, stands, ?_⟩
  rw [abs_of_pos moderate.pos] at near
  have := abs_le.1 near
  rw [abs_lt]
  norm_num at this ⊢
  exact ⟨by linarith, by linarith⟩

/-- Whole numbers of up to nine digits are close only if they are the same. -/
theorem isClose_nearest {n m : Nat} (hn : n < 10 ^ 9) (hm : m < 10 ^ 9) :
    isClose (Binary.nearest false n 1) (Binary.nearest false m 1) = decide (n = m) := by
  have exact_n : n < 2 ^ 52 := by omega
  have exact_m : m < 2 ^ 52 := by omega
  rw [isClose]
  by_cases same : n = m
  · rw [if_pos ((nearest_beq exact_n exact_m).2 same), decide_eq_true same]
  · rw [if_neg (mt (nearest_beq exact_n exact_m).1 same), decide_eq_false same]
    obtain ⟨x, stands, apart⟩ := stands_difference hn hm same
    obtain ⟨a, within_n, small_n⟩ := stands_tolerance hn
    obtain ⟨b, within_m, small_m⟩ := stands_tolerance hm
    have none := stands.not_abs_le (b := 0.0) (j := 0) (.zero .positive) (by rw [abs_zero]; linarith)
    rw [show (0.0 : Float).abs = 0.0 from rfl] at none
    simp only [decide_eq_false (stands.not_abs_le within_n (small_n.trans_le apart)),
      decide_eq_false (stands.not_abs_le within_m (small_m.trans_le apart)), decide_eq_false none, Bool.or_self,
      ite_self]

end Operator

/-! ## The order of integers and of their texts -/

theorem natText_injective {n m : Nat} (h : natText n = natText m) : n = m := by
  rw [← Reading.digitsValue_toDigits n, String.ofList_injective h, Reading.digitsValue_toDigits]

variable {x y : Int}

theorem toList_intText (h : x < 0) : (intText x).toList = '-' :: (natText x.natAbs).toList := by
  rw [intText, if_pos h]
  simp

theorem intText_of_nonneg (h : 0 ≤ x) : intText x = natText x.natAbs := if_neg (by omega)

theorem intText_lt_of_neg (hx : x < 0) (hy : 0 ≤ y) : intText x < intText y := by
  rw [String.lt_iff, toList_intText hx, intText_of_nonneg hy]
  have digits := Reading.digits_toDigits y.natAbs
  cases shown : Nat.toDigits 10 y.natAbs with
  | nil => exact absurd shown Nat.toDigits_ne_nil
  | cons c rest =>
    have low : 48 ≤ c.toNat := (Reading.isAsciiDigit_iff.1 (digits c (shown ▸ .head _))).1
    have later : '-' < c := show 45 < c.toNat by omega
    rw [show natText y.natAbs = String.ofList (c :: rest) from congrArg String.ofList shown, String.toList_ofList]
    exact List.cons_lt_cons_iff.2 (.inl later)

theorem intText_lt_iff_of_neg (hx : x < 0) (hy : y < 0) :
    intText x < intText y ↔ natText x.natAbs < natText y.natAbs := by
  rw [String.lt_iff, toList_intText hx, toList_intText hy, List.cons_lt_cons_iff, String.lt_iff]
  simp

theorem intText_eq_iff_of_neg (hx : x < 0) (hy : y < 0) :
    intText x = intText y ↔ natText x.natAbs = natText y.natAbs := by
  rw [← String.toList_inj, toList_intText hx, toList_intText hy, List.cons_inj_right, String.toList_inj]

namespace Comparison

/-- Whether a comparison holds in an order. -/
def ofOrder {α : Type} [LT α] [DecidableLT α] [DecidableEq α] : Comparison → α → α → Bool
  | greater, a, b => b < a
  | less, a, b => a < b
  | equals, a, b => a = b

theorem ofOrder_congr {α β : Type} [LT α] [DecidableLT α] [DecidableEq α] [LT β] [DecidableLT β] [DecidableEq β]
    (c : Comparison) {a b : α} {a' b' : β} (lt : a < b ↔ a' < b') (gt : b < a ↔ b' < a') (eq : a = b ↔ a' = b') :
    c.ofOrder a b = c.ofOrder a' b' := by
  cases c
  · exact decide_eq_decide.2 gt
  · exact decide_eq_decide.2 lt
  · exact decide_eq_decide.2 eq

theorem holds_texts (c : Comparison) {a b : String}
    (h : (Reading.looksNumeric a && Reading.looksNumeric b) = false) : c.holds a b = c.ofOrder a b := by
  cases c <;> simp [holds, ofOrder, h, Bool.beq_eq_decide_eq]

theorem holds_natText (c : Comparison) {n m : Nat} (hn : n < 10 ^ 9) (hm : m < 10 ^ 9) :
    c.holds (natText n) (natText m) = c.ofOrder n m := by
  have number : ∀ {k : Nat}, k < 10 ^ 9 → numberOf (natText k) = Binary.nearest false k 1 := fun hk => by
    rw [numberOf, Reading.float?_natText hk]
    rfl
  rw [c.holds_numeric (Reading.looksNumeric_natText n) (Reading.looksNumeric_natText m), number hn, number hm]
  cases c with
  | greater => exact decide_eq_decide.2 (Binary.nearest_lt (by omega) (by omega))
  | less => exact decide_eq_decide.2 (Binary.nearest_lt (by omega) (by omega))
  | equals => exact Operator.isClose_nearest hn hm

/-- What a comparison of two integers says: of two negative ones, what the order of their digits says. -/
def ofIntegers (c : Comparison) (x y : Int) : Bool :=
  if x < 0 ∧ y < 0 then c.ofOrder (natText x.natAbs) (natText y.natAbs) else c.ofOrder x y

theorem holds_intText (c : Comparison) (hx : x.natAbs < 10 ^ 9) (hy : y.natAbs < 10 ^ 9) :
    c.holds (intText x) (intText y) = c.ofIntegers x y := by
  by_cases nx : x < 0 <;> by_cases ny : y < 0 <;> rw [ofIntegers]
  · rw [if_pos ⟨nx, ny⟩, holds_texts _ (by simp [Reading.looksNumeric_intText, nx])]
    exact c.ofOrder_congr (intText_lt_iff_of_neg nx ny) (intText_lt_iff_of_neg ny nx) (intText_eq_iff_of_neg nx ny)
  · have lt := intText_lt_of_neg nx (Int.not_lt.1 ny)
    rw [if_neg (by omega), holds_texts _ (by simp [Reading.looksNumeric_intText, nx])]
    exact c.ofOrder_congr (iff_of_true lt (by omega)) (iff_of_false (String.lt_asymm lt) (by omega))
      (iff_of_false (fun same => String.lt_irrefl _ (same ▸ lt)) (by omega))
  · have lt := intText_lt_of_neg ny (Int.not_lt.1 nx)
    rw [if_neg (by omega), holds_texts _ (by simp [Reading.looksNumeric_intText, ny])]
    exact c.ofOrder_congr (iff_of_false (String.lt_asymm lt) (by omega)) (iff_of_true lt (by omega))
      (iff_of_false (fun same => String.lt_irrefl _ (same ▸ lt)) (by omega))
  · rw [if_neg (by omega), intText_of_nonneg (Int.not_lt.1 nx), intText_of_nonneg (Int.not_lt.1 ny),
      c.holds_natText hx hy]
    exact c.ofOrder_congr (by omega) (by omega) (by omega)

/-- It is the order of the integers, unless both are negative and it is asked which is larger. -/
theorem ofIntegers_eq (h : c = equals ∨ 0 ≤ x ∨ 0 ≤ y) : ofIntegers c x y = c.ofOrder x y := by
  unfold ofIntegers
  split
  · next neg =>
    obtain rfl : c = equals := h.resolve_right (by omega)
    refine decide_eq_decide.2 ⟨fun same => ?_, fun same => by rw [same]⟩
    have := natText_injective same
    omega
  · rfl

/-- A comparison of two integers of up to nine digits is entered and answers in their order; but of two
negative ones it answers which digits come first. -/
theorem integers_run {w : World} {me : Nat} {flag : Value} {name : String} {b : Block} {c : Comparison}
    (hx : x.natAbs < 10 ^ 9) (hy : y.natAbs < 10 ^ 9) (h : w.Meets me flag name b)
    (root : (Condition.compare c (intText x) (intText y)).IsRoot b)
    (free : (w.sprite me).hides c.name = false) (next : Bool) (depth : Nat) :
    ((player (depth + 1)).run me flag next).play w =
      (do
        enterBlock name c.name
        return Value.truth (c.ofIntegers x y)).play w ∧
    (c = equals ∨ 0 ≤ x ∨ 0 ≤ y → c.ofIntegers x y = c.ofOrder x y) := by
  refine ⟨?_, ofIntegers_eq⟩
  rw [← c.holds_intText hx hy]
  exact condition_run h root free next depth

def negativeStage : World := .ofBlocks [("g", block .greater (intText (-5)) (intText (-3)))]

/-- Minus five is not greater than minus three, but the block for it answers `True`. -/
theorem negative_five_answers_greater : ofOrder .greater (-5 : Int) (-3) = false ∧
      ((runBlock 0 (.text "g")).play negativeStage).1 = .ok (Value.truth true) :=
  ⟨rfl, rfl⟩

theorem integers_run_negative : (∃ b, negativeStage.Meets 0 (.text "g") "Cat" b ∧
      (Condition.compare .greater (intText (-5)) (intText (-3))).IsRoot b) ∧
    ((player 9).run 0 (.text "g") true).play negativeStage =
      (do
        enterBlock "Cat" "operator_gt"
        return Value.truth (ofIntegers .greater (-5) (-3))).play negativeStage := by
  have meets : negativeStage.Meets 0 (.text "g") "Cat" (block .greater (intText (-5)) (intText (-3))) :=
    ⟨rfl, rfl, rfl⟩
  exact ⟨⟨_, meets, isRoot_block ..⟩,
    (integers_run (by decide) (by decide) meets (isRoot_block ..) rfl true 8).1⟩

end Comparison

end BlockStage
