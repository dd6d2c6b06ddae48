import BlockStage.Proofs.Data.ListSequences
import BlockStage.Proofs.Operator.Formula

/-!
# Letters of a text

The block that takes a letter out of a text counts from zero. So the letters from zero on are the text again. From
one on the first is left out, and the last position has none, which is joined as the text `None`.
-/

namespace BlockStage

open Run

/-- The block that takes the letter of a text at a place. -/
def Reporter.letter (id s place : String) : Reporter := .node id "operator_letter_of"
  (.cons "STRING" (.literal (.text s)) (.cons "LETTER" (.literal (.text place)) .nil))

def Reporter.join (id : String) (start : Operand) (r : Reporter) : Reporter := .node id "operator_join"
  (.cons "STRING1" start (.cons "STRING2" (.reporter r) .nil))

/-- Blocks that join letters of a text to one another, the first of them at the position `first` and each other
one at the next position. The joining blocks and those of the letters have the names `ids`. -/
def Operand.spelling (ids : Nat → String × String) (s : String) (first : Nat) : (count : Nat) → Operand
  | 0 => .literal (.text "")
  | n + 1 => .reporter (.join (ids n).1 (spelling ids s first n) (.letter (ids n).2 s (natText (first + n))))

namespace Operator

variable {v : Sight} {ids : Nat → String × String} {s : String} {first n : Nat}

theorem at?_letter (s : String) (n : Nat) : (Value.text s).at? n =
    (s.toList[n]?).elim (.error .outOfRange) fun c => .ok (.text (String.singleton c)) := by
  have place : (Value.position? s.length n).bind (s.toList[·]?) = s.toList[n]? := by
    by_cases inside : n < s.length
    · rw [Value.position?_of_lt inside, Option.bind_some]
    · have outside : Value.position? s.length n = none := by
        simp only [Value.position?]
        exact if_neg (by omega)
      rw [outside, Option.bind_none, List.getElem?_eq_none (by rw [String.length_toList]; omega)]
  simp only [Value.at?, place]
  cases s.toList[n]? <;> rfl

/-- What a letter adds to a text that it is joined to. -/
def letterText (s : String) (n : Nat) : String := (s.toList[n]?).elim "None" String.singleton

theorem outcome_letter (free : v.hides "operator_letter_of" = false) (id s place : String) :
    (Reporter.letter id s place).outcome v =
      ((Value.text s).at? (Value.text place).asInt >>= fun c => pure (.text c.asText)) := by
  rw [Reporter.letter, Reporter.outcome, free]
  rfl

theorem outcome_join (free : v.hides "operator_join" = false) (id t : String) {start : Operand} (r : Reporter)
    (given : start.value v = .ok (.text t)) (kept : start.input.key "STRING1" = "STRING1") :
    (Reporter.join id start r).outcome v = .ok (.text (t ++ (r.value v).asText)) := by
  rw [Reporter.join, Reporter.outcome, free]
  simp only [Bool.false_eq_true, if_false, Inputs.values, given, kept]
  rfl

theorem letter_value (free : v.hides "operator_letter_of" = false) (id s : String) (bound : n ≤ 2 ^ 63) :
    ((Reporter.letter id s (natText n)).value v).asText = letterText s n := by
  rw [Reporter.value, outcome_letter free, Data.asInt_position bound, at?_letter, letterText]
  rcases s.toList[n]? with _ | c <;> rfl

/-- The letters at some positions, as they are joined. -/
def letters (s : String) (first n : Nat) : String := String.join ((List.range n).map fun i => letterText s (first + i))

theorem letters_succ (s : String) (first n : Nat) :
    letters s first (n + 1) = letters s first n ++ letterText s (first + n) := by
  simp [letters, List.range_succ, String.join_append]

theorem letters_within (h : first + n ≤ s.length) : letters s first n = String.ofList ((s.toList.drop first).take n) := by
  induction n with
  | zero => rfl
  | succ n ih =>
    have inside : first + n < s.toList.length := by
      rw [String.length_toList]
      omega
    rw [letters_succ, ih (by omega), letterText, List.take_add_one, List.getElem?_drop, List.getElem?_eq_getElem inside,
      String.ofList_append]
    rfl

/-- The operators that join and that take a letter are there to be used. -/
def Spells (v : Sight) : Prop := v.hides "operator_join" = false ∧ v.hides "operator_letter_of" = false

theorem spelling_value (ids : Nat → String × String) (s : String) (free : Spells v) (bound : first + n ≤ 2 ^ 63) :
    (Operand.spelling ids s first n).value v = .ok (.text (letters s first n)) := by
  induction n with
  | zero => rfl
  | succ n ih =>
    have kept : (Operand.spelling ids s first n).input.key "STRING1" = "STRING1" := by cases n <;> rfl
    rw [Operand.spelling, Operand.value, outcome_join free.1 _ _ _ (ih (by omega)) kept,
      letter_value free.2 _ _ (by omega), letters_succ, answerOf]

/-- Two blocks are entered for each letter. -/
theorem entries_spelling (ids : Nat → String × String) (s : String) (free : Spells v)
    (bound : first + n ≤ 2 ^ 63) (name : String) :
    entries ((Operand.spelling ids s first n).trace v name) = 2 * n := by
  have quiet : ∀ id e, entries (failureOf id e) = 0 := fun id e => by cases e <;> rfl
  have entered : ∀ opcode lines, entries (.entered name opcode :: lines) = entries lines + 1 := fun opcode lines =>
    List.countP_cons_of_pos rfl
  induction n with
  | zero => rfl
  | succ n ih =>
    simp only [Operand.spelling, Operand.trace, Reporter.join, Reporter.letter, Reporter.trace, Inputs.trace, free.1,
      free.2, Bool.false_eq_true, if_false, Operand.value, spelling_value ids s free (show first + n ≤ 2 ^ 63 by omega),
      entered, entries_append, quiet, ih (show first + n ≤ 2 ^ 63 by omega), entries_nil]
    omega

variable {w : World} {me : Nat} {name : String} {t : Table Block}

theorem spelling_run (next : Bool) (reads : w.Reads me name t) {r : Reporter} (held : r.Formula t)
    (spells : .reporter r = Operand.spelling ids s first n) (free : Spells (w.sight me))
    (bound : first + n ≤ 2 ^ 63) (fuel : 2 * n ≤ w.fuel) :
    ((runBlock me (.text r.id) next).play w).1 = .ok (.text (letters s first n)) := by
  have value := spelling_value ids s free bound
  have count := entries_spelling ids s free bound name
  rw [← spells] at value count
  have logs := r.logs held w (2 * w.fuel.toNat + 3 + 1) next reads (by omega) (by omega)
  rw [Operand.trace] at count
  rw [runBlock_play]
  exact (congrArg Prod.fst (logs.lasts (by omega))).trans (congrArg Except.ok (Except.ok.inj value))

/-- The letters of a text, taken one by one and joined. Those at the positions from zero on are the text; those
at the positions from one on are never the text, but what follows its first letter and `None`. -/
theorem letters_count_from_zero (next : Bool) (reads : w.Reads me name t) {r : Reporter} (held : r.Formula t)
    (length : s.length = n + 1) (spells : .reporter r = Operand.spelling ids s first (n + 1))
    (free : Spells (w.sight me)) (bound : s.length < 2 ^ 63) (fuel : 2 * (n + 1) ≤ w.fuel) :
    (first = 0 → ((runBlock me (.text r.id) next).play w).1 = .ok (.text s)) ∧
    (first = 1 → ((runBlock me (.text r.id) next).play w).1 = .ok (.text (String.ofList s.toList.tail ++ "None")) ∧
      String.ofList s.toList.tail ++ "None" ≠ s) := by
  have all : s.toList.length = n + 1 := String.length_toList.trans length
  constructor
  · rintro rfl
    rw [spelling_run next reads held spells free (by omega) fuel, letters_within (by omega), List.drop_zero,
      List.take_of_length_le (by omega), String.ofList_toList]
  · rintro rfl
    have last : letterText s (1 + n) = "None" := by
      rw [letterText, List.getElem?_eq_none (by omega), Option.elim_none]
    refine ⟨?_, fun same => ?_⟩
    · rw [spelling_run next reads held spells free (by omega) fuel, letters_succ, letters_within (by omega), last,
        List.drop_one, List.take_of_length_le (by rw [List.length_tail]; omega)]
    · have lengths := congrArg String.length same
      have four : "None".length = 4 := rfl
      rw [String.length_append, String.length_ofList, List.length_tail, all, length, four] at lengths
      omega

def spellingIds (n : Nat) : String × String := if n = 0 then ("j", "k") else ("l", "m")

/-- Blocks that join the letters of `ab` at the positions one and two. -/
def spellingBlocks : Table Block := [
  ("j", .plain "operator_join" [("STRING1", .literal ""), ("STRING2", .list [Value.int 1, .text "k"])]),
  ("k", .plain "operator_letter_of" [("STRING", .literal "ab"), ("LETTER", .literal "1")]),
  ("l", .plain "operator_join" [("STRING1", .list [Value.int 1, .text "j"]),
    ("STRING2", .list [Value.int 1, .text "m"])]),
  ("m", .plain "operator_letter_of" [("STRING", .literal "ab"), ("LETTER", .literal "2")])]

theorem letters_count_from_zero_ab : let w := World.ofBlocks spellingBlocks
    (w.Reads 0 "Cat" spellingBlocks ∧ Spells (w.sight 0)) ∧
      ((runBlock 0 (.text "l")).play w).1 = .ok (.text "bNone") := by
  intro w
  have reads : w.Reads 0 "Cat" spellingBlocks := ⟨rfl, rfl, rfl⟩
  have letter : ∀ {id place : String}, Table.get? spellingBlocks id = some (.plain "operator_letter_of"
      [("STRING", .literal "ab"), ("LETTER", .literal place)]) → (Reporter.letter id "ab" place).Formula spellingBlocks :=
    fun there => ⟨rfl, ⟨_, _, there, rfl, rfl, ⟨rfl, [], rfl, rfl⟩, _, _, rfl, (Operand.WrittenAs.literal _ _ _).read,
      _, _, rfl, (Operand.WrittenAs.literal _ _ _).read, rfl⟩, trivial, trivial, trivial⟩
  let one := Reporter.letter "k" "ab" "1"
  let two := Reporter.letter "m" "ab" "2"
  let inner := Reporter.join "j" (.literal (.text "")) one
  have first : inner.Formula spellingBlocks :=
    ⟨rfl, ⟨_, _, rfl, rfl, rfl, ⟨rfl, [], rfl, rfl⟩, _, _, rfl, (Operand.WrittenAs.literal _ _ _).read,
      _, _, rfl, (Operand.WrittenAs.reporter one _).read, rfl⟩, trivial, letter rfl, trivial⟩
  have held : (Reporter.join "l" (.reporter inner) two).Formula spellingBlocks :=
    ⟨rfl, ⟨_, _, rfl, rfl, rfl, ⟨rfl, [], rfl, rfl⟩, _, _, rfl, (Operand.WrittenAs.reporter inner _).read,
      _, _, rfl, (Operand.WrittenAs.reporter two _).read, rfl⟩, first, letter rfl, trivial⟩
  have length : "ab".length = 1 + 1 := rfl
  have spells : .reporter (Reporter.join "l" (.reporter inner) two) = Operand.spelling spellingIds "ab" 1 2 := rfl
  have runs := letters_count_from_zero true reads held length spells ⟨rfl, rfl⟩ (by decide) (by decide)
  exact ⟨⟨reads, rfl, rfl⟩, (runs.2 rfl).1⟩

set_option maxRecDepth 2000 in
/-- The letters of `ab` at the positions one and two are not joined to `ab`. -/
theorem ab_is_not_spelled_from_one :
    ((runBlock 0 (.text "l")).play (World.ofBlocks spellingBlocks)).1 ≠ .ok (.text "ab") := by
  intro same
  have runs : ((runBlock 0 (.text "l")).play (World.ofBlocks spellingBlocks)).1 = .ok (.text "bNone") := rfl
  exact absurd (Value.text.inj (Except.ok.inj (runs.symm.trans same))) (by decide)

end Operator

end BlockStage
