import BlockStage.Proofs.Number.Numerals
import BlockStage.Proofs.Script.Conditions
import Mathlib.Data.List.TakeWhile

/-!
# Texts that look like numbers

A comparison takes its operands as numbers if both look like numbers: digits, with at most one point. The test
takes superscripts and circled figures for digits, and the reader does not. So a text that looks like a number
is read exactly if its digits are decimal digits (`float?_isSome_iff`), and otherwise stands for zero.
-/

namespace BlockStage

open Run

namespace Reading

variable {c : Char} {cs : List Char} {s : String}

/-! ## Classes of characters -/

/-- The spans of code points that digits come from. -/
def digitSpans : List (Nat × Nat) := Text.decimalZeros.map (fun z => (z, z + 9)) ++ Text.figureRanges

theorem decimalValue?_cases {v : Nat} (h : Text.decimalValue? c = some v) :
    v < 10 ∧ ∃ z ∈ Text.decimalZeros, z ≤ c.toNat ∧ c.toNat ≤ z + 9 := by
  unfold Text.decimalValue? at h
  split at h
  · next ascii =>
    have low : 48 ≤ c.toNat := ascii.1
    have high : c.toNat ≤ 57 := ascii.2
    cases h
    exact ⟨by omega, 48, by decide, by omega⟩
  · split at h
    · cases h
    · obtain ⟨z, found, rfl⟩ := Option.map_eq_some_iff.1 h
      have within := List.find?_some found
      simp only [Bool.and_eq_true, decide_eq_true_eq] at within
      exact ⟨by omega, z, List.mem_of_find?_eq_some found, by omega⟩

theorem mem_digitSpans (h : Text.isDigit c = true) : ∃ span ∈ digitSpans, span.1 ≤ c.toNat ∧ c.toNat ≤ span.2 := by
  simp only [Text.isDigit, Bool.or_eq_true, Bool.and_eq_true] at h
  rcases h with decimal | ⟨-, figure⟩
  · obtain ⟨v, hv⟩ := Option.isSome_iff_exists.1 decimal
    obtain ⟨-, z, mem, within⟩ := decimalValue?_cases hv
    exact ⟨(z, z + 9), List.mem_append_left _ (List.mem_map.2 ⟨z, mem, rfl⟩), within⟩
  · obtain ⟨span, mem, within⟩ := List.any_eq_true.1 figure
    exact ⟨span, List.mem_append_right _ mem, by simpa using within⟩

theorem isBlank_of_isDigit (h : Text.isDigit c = true) : Text.isBlank c = false := by
  obtain ⟨span, mem, within⟩ := mem_digitSpans h
  have apart : ∀ span ∈ digitSpans, ∀ blank ∈ Text.blankRanges, span.2 < blank.1 ∨ blank.2 < span.1 := by
    decide +kernel
  rw [Text.isBlank, Text.inRanges, List.any_eq_false]
  intro blank blanks
  have := apart span mem blank blanks
  simp only [Bool.and_eq_true, decide_eq_true_eq]
  omega

/-- A character of a numeral once its decimal digits are brought to ASCII. -/
def Inked (c : Char) : Prop := isAsciiDigit c = true ∨ c = '.' ∨ 128 ≤ c.toNat

/-- What the reader looks for beside digits and points is ASCII. -/
theorem Inked.ne (h : Inked c) {d : Char} (plain : d.toNat < 128 ∧ isAsciiDigit d = false ∧ d ≠ '.') : c ≠ d := by
  rintro rfl
  rcases h with digit | point | high
  · exact absurd digit (by simp [plain.2.1])
  · exact plain.2.2 point
  · omega

/-- A decimal digit in ASCII, and any other character as it is. -/
def ascii (c : Char) : Char :=
  match Text.decimalValue? c with
  | some v => Char.ofNat (48 + v)
  | none => c

theorem isAsciiDigit_ascii (h : (Text.decimalValue? c).isSome = true) : isAsciiDigit (ascii c) = true := by
  obtain ⟨v, hv⟩ := Option.isSome_iff_exists.1 h
  rw [ascii, hv]
  exact (by decide : ∀ v < 10, isAsciiDigit (Char.ofNat (48 + v)) = true) v (decimalValue?_cases hv).1

theorem figure_ascii (h : Text.isDigit c = true) (other : (Text.decimalValue? c).isSome = false) :
    128 ≤ (ascii c).toNat := by
  rw [Text.isDigit, other, Bool.false_or, Bool.and_eq_true, decide_eq_true_eq] at h
  rw [ascii, Option.isSome_eq_false_iff.1 other |> Option.isNone_iff_eq_none.1]
  exact h.1

theorem inked_ascii (h : c = '.' ∨ Text.isDigit c = true) : Inked (ascii c) := by
  rcases h with rfl | digit
  · exact .inr (.inl rfl)
  · cases decimal : (Text.decimalValue? c).isSome with
    | true => exact .inl (isAsciiDigit_ascii decimal)
    | false => exact .inr (.inr (figure_ascii digit decimal))

/-! ## The shape of a text that looks like a number -/

theorem splitPoints_eq (cs : List Char) :
    ∃ part parts, splitPoints cs = part :: parts ∧ cs = part ++ parts.flatMap ('.' :: ·) := by
  induction cs with
  | nil => exact ⟨[], [], rfl, rfl⟩
  | cons c rest ih =>
    obtain ⟨part, parts, split, joined⟩ := ih
    rw [splitPoints, split]
    by_cases point : c = '.'
    · subst point
      exact ⟨[], part :: parts, if_pos rfl, by rw [joined]; rfl⟩
    · exact ⟨c :: part, parts, if_neg point, by rw [joined]; rfl⟩

def Figures (cs : List Char) : Prop := cs ≠ [] ∧ ∀ c ∈ cs, Text.isDigit c = true

theorem looksNumeric_shape (h : looksNumeric s = true) : ∃ whole, Figures whole ∧
      (s.toList = whole ∨ ∃ fraction, Figures fraction ∧ s.toList = whole ++ '.' :: fraction) := by
  obtain ⟨whole, parts, split, joined⟩ := splitPoints_eq s.toList
  rw [looksNumeric, split] at h
  simp only [Bool.and_eq_true, decide_eq_true_eq, List.length_cons, List.all_cons, List.all_eq_true,
    Bool.not_eq_true', List.isEmpty_eq_false_iff] at h
  obtain ⟨few, first, others⟩ := h
  refine ⟨whole, first, ?_⟩
  rw [joined]
  match parts, few, others with
  | [], _, _ => exact .inl (List.append_nil _)
  | [fraction], _, others => exact .inr ⟨fraction, others fraction (.head _), by simp⟩

theorem isDigit_of_looksNumeric (h : looksNumeric s = true) : ∀ c ∈ s.toList, c = '.' ∨ Text.isDigit c = true := by
  intro c mem
  obtain ⟨whole, figures, shape | ⟨fraction, rest, shape⟩⟩ := looksNumeric_shape h <;> rw [shape] at mem
  · exact .inr (figures.2 c mem)
  · rcases List.mem_append.1 mem with mem | mem
    · exact .inr (figures.2 c mem)
    · rcases List.mem_cons.1 mem with rfl | mem
      · exact .inl rfl
      · exact .inr (rest.2 c mem)

/-! ## How such a text is read -/

theorem normalise_looksNumeric (h : looksNumeric s = true) : normalise s = s.toList.map ascii := by
  have solid : ∀ c ∈ s.toList, Text.isBlank c = false := fun c mem =>
    (isDigit_of_looksNumeric h c mem).elim (fun point => point ▸ by decide) isBlank_of_isDigit
  rw [normalise, trimBlanks_eq_self solid]
  rfl

/-- Such a text has no sign, no underscore and no word for a number in it. -/
theorem float?_inked (h : ∀ c ∈ normalise s, Inked c) : float? s = decimal? false (normalise s) := by
  have absent : ∀ {d : Char}, d.toNat < 128 ∧ isAsciiDigit d = false ∧ d ≠ '.' → d ∉ normalise s :=
    fun plain mem => (h _ mem).ne plain rfl
  have unsigned : splitSign (normalise s) = (false, normalise s) := by
    unfold splitSign
    split
    · next eq => exact absurd (by rw [eq]; exact .head _) (absent (d := '-') (by decide))
    · next eq => exact absurd (by rw [eq]; exact .head _) (absent (d := '+') (by decide))
    · rfl
  have lower : (normalise s).map Char.toLower = normalise s := by
    refine (List.map_congr_left fun c mem => ?_).trans (List.map_id _)
    refine dif_neg fun upper => ?_
    rcases h c mem with digit | rfl | high
    · obtain ⟨-, le⟩ := isAsciiDigit_iff.1 digit
      exact absurd (UInt32.le_trans upper.1 le) (by decide)
    · exact absurd upper (by decide)
    · have le : c.toNat ≤ 90 := upper.2
      omega
  have word : ∀ (d : Char) (rest : List Char), d.toNat < 128 ∧ isAsciiDigit d = false ∧ d ≠ '.' →
      String.ofList (normalise s) ≠ String.ofList (d :: rest) := fun d rest plain same =>
    absent plain (String.ofList_injective same ▸ .head _)
  rw [float?, joinDigits_eq_some (absent (by decide))]
  simp only [unsigned, lower]
  rw [if_neg, if_neg]
  · exact word 'n' ['a', 'n'] (by decide)
  · simp only [Bool.or_eq_true, decide_eq_true_eq, not_or]
    exact ⟨word 'i' ['n', 'f'] (by decide), word 'i' ['n', 'f', 'i', 'n', 'i', 't', 'y'] (by decide)⟩

theorem decimal?_digits (neg : Bool) (h : Digits cs) (ne : cs ≠ []) : decimal? neg cs = some (scaled neg cs 0) := by
  have taken : cs.takeWhile isAsciiDigit = cs := List.takeWhile_eq_self_iff.2 h
  have left : cs.dropWhile isAsciiDigit = [] := List.dropWhile_eq_nil_iff.2 h
  rw [decimal?, taken, left]
  simp [ne, exponent?]

theorem decimal?_point (neg : Bool) {fraction : List Char} (whole : Digits cs) (ne : cs ≠ [])
    (digits : Digits fraction) : (decimal? neg (cs ++ '.' :: fraction)).isSome = true := by
  have point : ¬ isAsciiDigit '.' = true := by decide
  have taken : (cs ++ '.' :: fraction).takeWhile isAsciiDigit = cs := by
    rw [List.takeWhile_append_of_pos whole, List.takeWhile_cons_of_neg point, List.append_nil]
  have left : (cs ++ '.' :: fraction).dropWhile isAsciiDigit = '.' :: fraction := by
    rw [List.dropWhile_append_of_pos whole, List.dropWhile_cons_of_neg point]
  rw [decimal?, taken, left]
  simp only [List.dropWhile_eq_nil_iff.2 digits]
  simp [ne, exponent?]

theorem exponent?_inked (h : ∀ c ∈ cs, Inked c) (some : (exponent? cs).isSome = true) : cs = [] := by
  cases cs with
  | nil => rfl
  | cons c rest =>
    have small := (h c (.head _)).ne (d := 'e') (by decide)
    have large := (h c (.head _)).ne (d := 'E') (by decide)
    simp [exponent?, small, large] at some

/-- A digit that is not a decimal digit makes the reading fail. -/
theorem digit_of_decimal? {neg : Bool} (h : ∀ c ∈ cs, Inked c) (read : (decimal? neg cs).isSome = true) :
    ∀ c ∈ cs, isAsciiDigit c = true ∨ c = '.' := by
  intro c mem
  rw [← List.takeWhile_append_dropWhile (p := isAsciiDigit) (l := cs)] at mem
  have inked : ∀ c ∈ cs.dropWhile isAsciiDigit, Inked c := fun c mem => h c ((List.dropWhile_sublist _).mem mem)
  rcases List.mem_append.1 mem with mem | mem
  · exact .inl (List.mem_takeWhile_imp mem)
  · simp only [decimal?] at read
    split at read
    · next after left =>
      split at read
      · cases read
      · rw [left] at mem inked
        have spent := exponent?_inked (fun c mem => inked c (.tail _ ((List.dropWhile_sublist _).mem mem)))
          (by simpa using read)
        rcases List.mem_cons.1 mem with rfl | mem
        · exact .inr rfl
        · exact .inl (List.dropWhile_eq_nil_iff.1 spent c mem)
    · split at read
      · cases read
      · rw [exponent?_inked inked (by simpa using read)] at mem
        cases mem

def Positional (s : String) : Prop := ∀ c ∈ s.toList, c = '.' ∨ (Text.decimalValue? c).isSome = true

/-- A text that looks like a number is read as one exactly if its digits are decimal digits. -/
theorem float?_isSome_iff (looks : looksNumeric s = true) : (float? s).isSome = true ↔ Positional s := by
  have shown := isDigit_of_looksNumeric looks
  have inked : ∀ c ∈ normalise s, Inked c := by
    rw [normalise_looksNumeric looks]
    intro _ mem
    obtain ⟨c, found, rfl⟩ := List.mem_map.1 mem
    exact inked_ascii (shown c found)
  rw [float?_inked inked]
  constructor
  · intro read c mem
    refine (shown c mem).imp_right fun digit => ?_
    rcases digit_of_decimal? inked read (ascii c) (normalise_looksNumeric looks ▸ List.mem_map_of_mem mem) with
      plain | point <;> by_contra other <;> have high := figure_ascii digit (by simpa using other)
    · have low : (ascii c).toNat ≤ 57 := (isAsciiDigit_iff.1 plain).2
      omega
    · rw [point] at high
      exact absurd high (by decide)
  · intro positional
    have digits : ∀ {cs : List Char}, Figures cs → (∀ c ∈ cs, c ∈ s.toList) → Digits (cs.map ascii) := by
      intro cs figures within _ mem
      obtain ⟨c, found, rfl⟩ := List.mem_map.1 mem
      rcases positional c (within c found) with rfl | decimal
      · exact absurd (figures.2 '.' found) (by decide)
      · exact isAsciiDigit_ascii decimal
    have filled : ∀ {cs : List Char}, Figures cs → cs.map ascii ≠ [] := fun figures => by simpa using figures.1
    obtain ⟨whole, figures, shape | ⟨fraction, rest, shape⟩⟩ := looksNumeric_shape looks <;>
      rw [normalise_looksNumeric looks, shape]
    · rw [decimal?_digits _ (digits figures fun c mem => shape ▸ mem) (filled figures)]
      rfl
    · rw [List.map_append]
      exact decimal?_point _ (digits figures fun c mem => shape ▸ List.mem_append_left _ mem) (filled figures)
        (digits rest fun c mem => shape ▸ List.mem_append_right _ (.tail _ mem))

end Reading

/-! ## What a comparison makes of such texts -/

namespace Comparison

/-- Whether a comparison of two numbers holds; two numbers count as equal if they are close. -/
def ofDoubles : Comparison → Float → Float → Bool
  | greater, x, y => y < x
  | less, x, y => x < y
  | equals, x, y => Operator.isClose x y

theorem holds_numeric (c : Comparison) {a b : String} (ha : Reading.looksNumeric a = true)
    (hb : Reading.looksNumeric b = true) : c.holds a b = c.ofDoubles (numberOf a) (numberOf b) := by
  cases c <;> simp [holds, ofDoubles, ha, hb]

theorem numberOf_unread {s : String} (looks : Reading.looksNumeric s = true) (h : ¬ Reading.Positional s) :
    numberOf s = 0.0 := by
  have unread := mt (Reading.float?_isSome_iff looks).1 h
  rw [numberOf, Option.not_isSome_iff_eq_none.1 unread]
  rfl

/-- A comparison of two texts that look like numbers compares, for each text whose digits are decimal
digits, the number that it is read as; and zero for any other, which is not read at all. -/
theorem reads_positional_texts {w : World} {me : Nat} {flag : Value} {name : String} {b : Block}
    {c : Comparison} {x y : String} (h : w.Meets me flag name b) (root : (Condition.compare c x y).IsRoot b)
    (free : (w.sprite me).hides c.name = false) (numeric : ∀ s ∈ [x, y], Reading.looksNumeric s = true)
    (next : Bool) (depth : Nat) :
    (∀ s ∈ [x, y], ((Reading.float? s).isSome = true ↔ Reading.Positional s) ∧
      (∀ v, Reading.float? s = some v → numberOf s = v) ∧ (¬ Reading.Positional s → numberOf s = 0.0)) ∧
    ((player (depth + 1)).run me flag next).play w =
      (do
        enterBlock name c.name
        return Value.truth (c.ofDoubles (numberOf x) (numberOf y))).play w := by
  constructor
  · intro s mem
    have looks := numeric s mem
    exact ⟨Reading.float?_isSome_iff looks, fun v read => by rw [numberOf, read]; rfl, numberOf_unread looks⟩
  · rw [← c.holds_numeric (numeric x (by simp)) (numeric y (by simp))]
    exact condition_run h root free next depth

/-- The block that compares two texts. -/
def block (c : Comparison) (x y : String) : Block :=
  .plain c.name [("OPERAND1", .literal x), ("OPERAND2", .literal y)]

theorem isRoot_block (c : Comparison) (x y : String) : (Condition.compare c x y).IsRoot (c.block x y) where
  opcode := rfl
  last := rfl
  gives := Block.plain_gives (.cons (Input.gives_literal (by decide +kernel) x)
    (.cons (Input.gives_literal (by decide +kernel) y) .nil))

def superscriptStage : World := .ofBlocks [("e", block .equals "²" "0")]

/-- A superscript two looks like a number, is none, and is found equal to zero. -/
theorem superscript_equals_zero : Reading.looksNumeric "²" = true ∧ Reading.float? "²" = none ∧
      ((runBlock 0 (.text "e")).play superscriptStage).1 = .ok (Value.truth true) :=
  ⟨rfl, rfl, rfl⟩

theorem reads_positional_texts_superscript :
    (∃ b, superscriptStage.Meets 0 (.text "e") "Cat" b ∧ (Condition.compare .equals "²" "0").IsRoot b ∧
      ∀ s ∈ ["²", "0"], Reading.looksNumeric s = true) ∧
    ((player 9).run 0 (.text "e") true).play superscriptStage =
      (do
        enterBlock "Cat" "operator_equals"
        return Value.truth (ofDoubles .equals (numberOf "²") (numberOf "0"))).play superscriptStage := by
  have meets : superscriptStage.Meets 0 (.text "e") "Cat" (block .equals "²" "0") := ⟨rfl, rfl, rfl⟩
  have numeric : ∀ s ∈ ["²", "0"], Reading.looksNumeric s = true := by decide
  exact ⟨⟨_, meets, isRoot_block .., numeric⟩, (reads_positional_texts meets (isRoot_block ..) rfl numeric true 8).2⟩

end Comparison

end BlockStage
