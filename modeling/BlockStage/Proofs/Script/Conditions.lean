import BlockStage.Proofs.Run.Step

/-!
# Conditions

A condition is a tree of `and`, `or` and `not` over comparisons of two texts. A connective only sees the ids
that stand in its slots: `condition_run` says what the root answers, beside `Condition.value`, the truth value
of the tree.
-/

namespace BlockStage

open Run

variable {args : Arguments}

/-! ## Comparisons -/

inductive Comparison where
  | greater
  | less
  | equals
  deriving DecidableEq, Repr

namespace Comparison

def name : Comparison → String
  | greater => "operator_gt"
  | less => "operator_lt"
  | equals => "operator_equals"

def operator : Comparison → Operator
  | greater => .greater
  | less => .less
  | equals => .equals

def numberOf (s : String) : Float := (Reading.float? s).getD 0.0

/-- Whether a comparison holds: of the numbers, if both texts are written like numbers, and of the
texts otherwise. -/
def holds (c : Comparison) (a b : String) : Bool :=
  if Reading.looksNumeric a && Reading.looksNumeric b then
    match c with
    | greater => numberOf b < numberOf a
    | less => numberOf a < numberOf b
    | equals => Operator.isClose (numberOf a) (numberOf b)
  else
    match c with
    | greater => b < a
    | less => a < b
    | equals => a == b

end Comparison

/-! ## Trees -/

mutual

/-- A tree of connectives over comparisons. -/
inductive Condition where
  | compare (c : Comparison) (a b : String)
  | and (l r : Slot)
  | or (l r : Slot)
  | not (s : Slot)

/-- The place of an operand. -/
inductive Slot where
  /-- The block has no such input. -/
  | missing
  /-- The block with this id stands in the slot. -/
  | filled (id : String) (c : Condition)

end

mutual

/-- The truth value of a tree; a missing operand is false. -/
def Condition.value : Condition → Bool
  | .compare c a b => c.holds a b
  | .and l r => l.value && r.value
  | .or l r => l.value || r.value
  | .not s => !s.value

def Slot.value : Slot → Bool
  | .missing => false
  | .filled _ c => c.value

end

namespace Slot

def inputs (name : String) : Slot → List (String × Value)
  | missing => []
  | filled id _ => [(name, .text id)]

def handedOver : Slot → Value
  | missing => .bool false
  | filled id _ => .text id

end Slot

namespace Condition

def opcode : Condition → String
  | compare c _ _ => c.name
  | and _ _ => "operator_and"
  | or _ _ => "operator_or"
  | not _ => "operator_not"

/-- What the root of a tree answers. A connective only looks at the ids in its slots. -/
def answer : Condition → Bool
  | compare c a b => c.holds a b
  | and l r => l.handedOver.asBool && r.handedOver.asBool
  | or l r => l.handedOver.asBool || r.handedOver.asBool
  | not s => !s.handedOver.holds

def inputs : Condition → List (String × Value)
  | compare _ a b => [("OPERAND1", .text a), ("OPERAND2", .text b)]
  | and l r | or l r => l.inputs "OPERAND1" ++ r.inputs "OPERAND2"
  | not s => s.inputs "OPERAND"

/-- The block at the root of a tree, which ends its script. -/
structure IsRoot (c : Condition) (b : Block) : Prop where
  opcode : b.opcode? = .ok (.text c.opcode)
  last : b.next = .null
  gives : b.Gives c.inputs []

def operator : Condition → Operator
  | compare c _ _ => c.operator
  | and _ _ => .and
  | or _ _ => .or
  | not _ => .not

theorem ofName?_opcode (c : Condition) :
    Member.ofName? default c.opcode = some (.block (.operator c.operator)) ∧
      c.opcode ∉ Member.always := by
  cases c with
  | compare c a b => cases c <;> exact ⟨rfl, by simp [opcode, Comparison.name, Member.always]⟩
  | _ => exact ⟨rfl, by simp [opcode, Member.always]⟩

theorem inputs_distinct (c : Condition) : (c.inputs.map Prod.fst).Nodup := by
  cases c with
  | compare => simp [inputs]
  | and l r | or l r => cases l <;> cases r <;> simp [inputs, Slot.inputs]
  | not s => cases s <;> simp [inputs, Slot.inputs]

end Condition

/-! ## What the root answers -/

theorem Comparison.numberOf_eq (s : String) : (Value.text s).asFloat? = .ok (Comparison.numberOf s) := by
  cases h : Reading.float? s <;> simp only [Value.asFloat?, Value.toFloat?, numberOf, h] <;> rfl

theorem Operator.comparison_texts (onNumbers : Float → Float → Bool)
    {onValues : Value → Value → Except Fault Bool} {a b : String} {onTexts : Bool}
    (ha : Table.get? args "OPERAND1" = some (.text a)) (hb : Table.get? args "OPERAND2" = some (.text b))
    (texts : onValues (.text a) (.text b) = .ok onTexts) :
    Operator.comparison onNumbers onValues args = .ok (Value.truth
      (if Reading.looksNumeric a && Reading.looksNumeric b then
        onNumbers (Comparison.numberOf a) (Comparison.numberOf b)
      else onTexts)) := by
  simp only [Operator.comparison, Arguments.need, ha, hb, Value.looksNumeric?, bind, Except.bind,
    Comparison.numberOf_eq, texts]
  cases Reading.looksNumeric a <;> cases Reading.looksNumeric b <;> rfl

/-- What a block was given is exactly this, beside nothing else. -/
def Arguments.AreExactly (args : Arguments) (given : List (String × Value)) : Prop :=
  (∀ g ∈ given, Table.get? args g.1 = some g.2) ∧
    ∀ key, key ∉ given.map Prod.fst → Table.get? args key = none

theorem Slot.orFalse_pair {l r : Slot}
    (h : args.AreExactly (l.inputs "OPERAND1" ++ r.inputs "OPERAND2")) :
    args.orFalse "OPERAND1" = l.handedOver ∧ args.orFalse "OPERAND2" = r.handedOver := by
  obtain ⟨found, absent⟩ := h
  have first := absent "OPERAND1"
  have second := absent "OPERAND2"
  cases l <;> cases r <;> simp_all [Arguments.orFalse, inputs, handedOver]

theorem Slot.orFalse_single {s : Slot} (h : args.AreExactly (s.inputs "OPERAND")) :
    args.orFalse "OPERAND" = s.handedOver := by
  obtain ⟨found, absent⟩ := h
  have only := absent "OPERAND"
  cases s <;> simp_all [Arguments.orFalse, inputs, handedOver]

theorem Comparison.perform_operator (p : Player) {c : Comparison} {a b : String}
    (ha : Table.get? args "OPERAND1" = some (.text a))
    (hb : Table.get? args "OPERAND2" = some (.text b)) (me : Nat) (flag : Value) {w : World}
    (taken : ((Arguments.eval me flag).perform p).play w = (.ok args, w)) :
    ((c.operator.act me flag).perform p).play w = (.ok (Value.truth (c.holds a b)), w) := by
  have compared : ∀ {onNumbers : Float → Float → Bool} {onValues} {onTexts : Bool},
      onValues (.text a) (.text b) = .ok onTexts →
      Operator.comparison onNumbers onValues args = .ok (Value.truth
        (if Reading.looksNumeric a && Reading.looksNumeric b then onNumbers (numberOf a) (numberOf b)
        else onTexts)) := fun texts => Operator.comparison_texts _ ha hb texts
  cases c with
  | greater | less | equals =>
    simp only [operator, Operator.act, Operator.rule?, Act.perform_bind]
    rw [play_bind_ok taken, compared rfl]
    rfl

/-- A connective or a comparison at the root of a tree answers without running anything. -/
theorem Condition.perform_operator (p : Player) {c : Condition} {b : Block} {me : Nat} {flag : Value}
    {w : World} (root : c.IsRoot b) (hnull : flag.isNull = false) (hb : w.block? me flag = .ok b) :
    ((c.operator.act me flag).perform p).play w = (.ok (Value.truth c.answer), w) := by
  obtain ⟨args, taken, found, rest⟩ :=
    Arguments.eval_given hnull hb root.gives c.inputs_distinct
  have exactly : args.AreExactly c.inputs := ⟨found, fun key h => rest key h⟩
  cases c with
  | compare c x y =>
    exact c.perform_operator p (found ("OPERAND1", .text x) (by simp [inputs]))
      (found ("OPERAND2", .text y) (by simp [inputs])) me flag (taken p)
  | and l r | or l r =>
    obtain ⟨left, right⟩ := Slot.orFalse_pair exactly
    simp only [operator, Operator.act, Operator.rule?, Act.perform_bind]
    rw [play_bind_ok (taken p), left, right]
    rfl
  | not s =>
    simp only [operator, Operator.act, Operator.rule?, Act.perform_bind]
    rw [play_bind_ok (taken p), Slot.orFalse_single exactly]
    rfl

/-- The root of a tree is entered and answers by what stands in its slots; no operand is entered. -/
theorem condition_run {w : World} {me : Nat} {flag : Value} {name : String} {b : Block}
    {c : Condition} (h : w.Meets me flag name b) (root : c.IsRoot b)
    (free : (w.sprite me).hides c.opcode = false) (next : Bool) (depth : Nat) :
    ((player (depth + 1)).run me flag next).play w =
      (do
        enterBlock name c.opcode
        return Value.truth c.answer).play w := by
  obtain ⟨known, plain⟩ := c.ofName?_opcode
  exact runWith_answer (player depth) next h root.opcode root.last
    ((Member.ofName?_of_free free plain).trans known)
    (c.perform_operator _ root h.flag_ne_null h.found)

/-! ## A negation that answers wrongly -/

def notEqual : Condition := .not (.filled "e" (.compare .equals "a" "b"))

/-- A sprite with the blocks of that condition. -/
def notEqualStage : World := .ofBlocks [
  ("n", .plain "operator_not" [("OPERAND", .slot "e")]),
  ("e", .plain "operator_equals" [("OPERAND1", .literal "a"), ("OPERAND2", .literal "b")])]

/-- The condition is true, and its operand answers `False`; but it answers `False` itself. -/
theorem notEqual_answers_false : notEqual.value = true ∧
      ((runBlock 0 (.text "e")).play notEqualStage).1 = .ok (Value.truth false) ∧
      ((runBlock 0 (.text "n")).play notEqualStage).1 = .ok (Value.truth false) :=
  ⟨by decide, rfl, rfl⟩

/-- The hypotheses of `condition_run` are those of that sprite. -/
theorem condition_run_notEqual : (∃ b, notEqualStage.Meets 0 (.text "n") "Cat" b ∧ notEqual.IsRoot b ∧
      (notEqualStage.sprite 0).hides notEqual.opcode = false) ∧
    ((player 9).run 0 (.text "n") true).play notEqualStage =
      (do
        enterBlock "Cat" "operator_not"
        return Value.truth notEqual.answer).play notEqualStage := by
  have meets : notEqualStage.Meets 0 (.text "n") "Cat" (.plain "operator_not" [("OPERAND", .slot "e")]) :=
    ⟨rfl, rfl, rfl⟩
  have root : notEqual.IsRoot (.plain "operator_not" [("OPERAND", .slot "e")]) :=
    ⟨rfl, rfl, Block.plain_gives (.cons (Input.gives_slot _ _) .nil)⟩
  exact ⟨⟨_, meets, root, rfl⟩, condition_run meets root rfl true 8⟩

end BlockStage
