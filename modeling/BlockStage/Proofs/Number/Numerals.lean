import BlockStage.Value.Coercion
import Mathlib.Algebra.Group.Nat.Defs
import Mathlib.Data.List.Induction

/-!
# Numerals

A number that is written in decimal is read as that number, if it does not have too many digits:
`Reading.int?_intText`, `Value.asInt_intText`. Each stage of the reader leaves a row of ASCII digits alone.
-/

namespace BlockStage

theorem Binary.natAbs_signed (neg : Bool) (n : Nat) : (signed neg n).natAbs = n := by
  unfold signed
  split <;> simp

namespace Reading

variable {cs : List Char} {c : Char}

def Digits (cs : List Char) : Prop := ∀ c ∈ cs, isAsciiDigit c = true

theorem isAsciiDigit_iff : isAsciiDigit c = true ↔ '0' ≤ c ∧ c ≤ '9' := by
  simp [isAsciiDigit]

theorem digits_toDigits (n : Nat) : Digits (Nat.toDigits 10 n) := by
  intro c mem
  have digit : c.isDigit = true := Nat.isDigit_of_mem_toDigits (by decide) (by decide) mem
  simpa [isAsciiDigit, Char.isDigit, Char.le_def] using digit

theorem isBlank_of_digit (h : isAsciiDigit c = true) : Text.isBlank c = false := by
  obtain ⟨low, high⟩ := isAsciiDigit_iff.1 h
  have low : 48 ≤ c.toNat := low
  have high : c.toNat ≤ 57 := high
  exact (by decide : ∀ n < 58, 48 ≤ n → Text.inRanges Text.blankRanges n = false) c.toNat (by omega) low

theorem trimBlanks_eq_self (h : ∀ c ∈ cs, Text.isBlank c = false) : Text.trimBlanks cs = cs := by
  have kept : ∀ {cs : List Char}, (∀ c ∈ cs, Text.isBlank c = false) → cs.dropWhile Text.isBlank = cs := by
    intro cs solid
    cases cs with
    | nil => rfl
    | cons c rest =>
      rw [List.dropWhile_cons_of_neg]
      rw [solid c (.head _)]
      decide
  rw [Text.trimBlanks, kept h, kept fun c mem => h c (List.mem_reverse.1 mem), List.reverse_reverse]

theorem normalise_signed (h : ∀ c ∈ cs, c = '-' ∨ isAsciiDigit c = true) : normalise (String.ofList cs) = cs := by
  have solid : ∀ c ∈ cs, Text.isBlank c = false := fun c mem =>
    (h c mem).elim (fun sign => sign ▸ by decide) isBlank_of_digit
  rw [normalise, String.toList_ofList, trimBlanks_eq_self solid]
  refine (List.map_congr_left fun c mem => ?_).trans (List.map_id cs)
  rcases h c mem with rfl | digit
  · rfl
  · obtain ⟨low, high⟩ := isAsciiDigit_iff.1 digit
    have least : 48 ≤ c.toNat := low
    rw [Text.decimalValue?, if_pos ⟨low, high⟩]
    show Char.ofNat (48 + (c.toNat - 48)) = c
    rw [Nat.add_sub_cancel' least, Char.ofNat_toNat]

theorem normalise_digits (h : Digits cs) : normalise (String.ofList cs) = cs :=
  normalise_signed fun c mem => .inr (h c mem)

theorem joinDigits_eq_some (h : '_' ∉ cs) (after : Bool) : joinDigits after cs = some cs := by
  induction cs generalizing after with
  | nil => rfl
  | cons c rest ih =>
    have other : c ≠ '_' := fun same => h (same ▸ .head _)
    rw [joinDigits.eq_3 _ _ _ (fun _ _ same => absurd same other), if_neg other, ih fun mem => h (.tail _ mem)]
    rfl

theorem joinDigits_digits (h : Digits cs) (after : Bool) : joinDigits after cs = some cs :=
  joinDigits_eq_some (fun mem => absurd (h '_' mem) (by decide)) after

theorem splitSign_digits (h : Digits cs) : splitSign cs = (false, cs) := by
  unfold splitSign
  split
  · exact absurd (h '-' (.head _)) (by decide)
  · exact absurd (h '+' (.head _)) (by decide)
  · rfl

theorem digitsValue_toDigits (n : Nat) : digitsValue (Nat.toDigits 10 n) = n := by
  have same : digitsValue (Nat.toDigits 10 n) = Nat.ofDigitChars 10 (Nat.toDigits 10 n) 0 := by
    simp only [digitsValue, Nat.ofDigitChars_eq_foldl, Nat.mul_comm]
    rfl
  exact same.trans Nat.ofDigitChars_ten_toDigits

theorem int?_intText {n : Int} (h : n.natAbs < 10 ^ digitLimit) : int? (intText n) = some n := by
  have digits := digits_toDigits n.natAbs
  have length : (Nat.toDigits 10 n.natAbs).length ≤ digitLimit :=
    (Nat.length_toDigits_le_iff (by decide) (by decide)).2 h
  have whole : ((Nat.toDigits 10 n.natAbs).isEmpty || !(Nat.toDigits 10 n.natAbs).all isAsciiDigit ||
      decide (digitLimit < (Nat.toDigits 10 n.natAbs).length)) = false := by
    rw [List.all_eq_true.2 digits, decide_eq_false (Nat.not_lt.2 length)]
    simp
  by_cases neg : n < 0
  · have spelled : intText n = String.ofList ('-' :: Nat.toDigits 10 n.natAbs) :=
      (if_pos neg).trans String.ofList_append.symm
    rw [int?, spelled, normalise_signed (List.forall_mem_cons.2 ⟨.inl rfl, fun c mem => .inr (digits c mem)⟩),
      joinDigits_eq_some (by simp)]
    simp only [splitSign, whole, digitsValue_toDigits, Binary.signed]
    exact congrArg some (by rw [if_pos trivial]; omega)
  · have spelled : intText n = String.ofList (Nat.toDigits 10 n.natAbs) := if_neg neg
    rw [int?, spelled, normalise_digits digits, joinDigits_digits digits]
    simp only [splitSign_digits digits, whole, digitsValue_toDigits, Binary.signed]
    exact congrArg some (by rw [if_neg Bool.false_ne_true]; omega)

theorem digitsValue_lt {cs : List Char} (h : Digits cs) : digitsValue cs < 10 ^ cs.length := by
  induction cs using List.reverseRecOn with
  | nil => decide
  | append_singleton cs c ih =>
    have ih := ih fun c mem => h c (List.mem_append_left _ mem)
    obtain ⟨-, high⟩ := isAsciiDigit_iff.1 (h c (by simp))
    have high : c.toNat ≤ 57 := high
    rw [digitsValue, List.foldl_append, List.length_append, List.length_singleton, Nat.pow_succ]
    change digitsValue cs * 10 + _ < _
    omega

theorem int?_lt {s : String} {n : Int} (h : int? s = some n) : n.natAbs < 10 ^ digitLimit := by
  unfold int? at h
  split at h
  · cases h
  · next cs _ =>
    dsimp only at h
    split at h
    · cases h
    · next whole =>
      simp only [Bool.or_eq_true, decide_eq_true_eq, not_or, Bool.not_eq_true', Bool.not_eq_false] at whole
      have digits : Digits (splitSign cs).2 := by simpa [Digits] using whole.1.2
      have lt := digitsValue_lt digits
      have le : (splitSign cs).2.length ≤ digitLimit := Nat.not_lt.1 whole.2
      cases h
      rw [Binary.natAbs_signed]
      exact Nat.lt_of_lt_of_le lt (Nat.pow_le_pow_right (by decide) le)

end Reading

theorem Value.asInt_intText {n : Int} (h : n.natAbs < 10 ^ digitLimit) : (Value.text (intText n)).asInt = n := by
  rw [asInt, toInt?, Reading.int?_intText h]

theorem Value.asInt_natText {n : Nat} (h : n < 10 ^ digitLimit) : (Value.text (natText n)).asInt = n := by
  rw [← asInt_intText (n := n) h, show intText n = natText n from if_neg (by omega)]

theorem Binary.truncate?_lt {x : Float} {n : Int} (h : truncate? x = .ok n) : n.natAbs < 10 ^ digitLimit := by
  unfold truncate? at h
  split at h
  · cases h
  next d found =>
  cases h
  obtain ⟨k, mant, exp, room⟩ : ∃ k : Nat, d.mant < 2 ^ 53 ∧ d.exp ≤ k ∧ 53 + k ≤ digitLimit := by
    have low : x.toBits.toNat % twoTo mantissaBits < 2 ^ 52 := Nat.mod_lt _ (by decide)
    have field : x.toBits.toNat / twoTo mantissaBits % 2048 < 2048 := Nat.mod_lt _ (by decide)
    have top : twoTo mantissaBits = 2 ^ 52 := rfl
    have least : leastExp = -1074 := rfl
    refine ⟨971, ?_⟩
    unfold dyadic? at found
    dsimp only at found
    split at found
    · cases found
    · split at found <;> cases found <;> dsimp only [digitLimit] <;> omega
  have small : 2 ^ (53 + k) ≤ 10 ^ digitLimit :=
    Nat.le_trans (Nat.pow_le_pow_left (show 2 ≤ 10 by decide) _) (Nat.pow_le_pow_right (by decide) room)
  refine Nat.lt_of_lt_of_le ?_ small
  rw [natAbs_signed]
  split
  · have power : twoTo d.exp.toNat ≤ 2 ^ k := Nat.pow_le_pow_right (by decide) (by omega)
    calc d.mant * twoTo d.exp.toNat ≤ d.mant * 2 ^ k := Nat.mul_le_mul_left _ power
      _ < 2 ^ 53 * 2 ^ k := Nat.mul_lt_mul_of_pos_right mant (Nat.two_pow_pos _)
      _ = 2 ^ (53 + k) := (Nat.pow_add 2 53 k).symm
  · calc d.mant / twoTo (-d.exp).toNat ≤ d.mant := Nat.div_le_self _ _
      _ < 2 ^ 53 := mant
      _ ≤ 2 ^ (53 + k) := Nat.pow_le_pow_right (by decide) (Nat.le_add_right _ _)

theorem Value.asInt_lt (s : String) : (Value.text s).asInt.natAbs < 10 ^ digitLimit := by
  have none : (0 : Int).natAbs < 10 ^ digitLimit := Nat.pow_pos (by decide)
  unfold asInt
  split
  · next n read =>
    unfold toInt? at read
    dsimp only at read
    split at read <;> cases read
    next found => exact Reading.int?_lt found
  · split
    · split
      · next n truncated => exact Binary.truncate?_lt truncated
      · exact none
    · exact none

theorem Value.display?_int {n : Int} (h : n.natAbs < 10 ^ digitLimit) : (Value.int n).display? = .ok (intText n) := by
  have length : ¬ digitLimit < (natText n.natAbs).length := by
    rw [Nat.not_lt, natText, String.length_ofList]
    exact (Nat.length_toDigits_le_iff (by decide) (by decide)).2 h
  exact if_neg length

end BlockStage
