import BlockStage.Proofs.Number.Numerals
import BlockStage.Proofs.Operator.Formula
import BlockStage.Proofs.Script.Conditions

/-!
# What operators make of each other's answers

Only the operator that draws a random number answers a number; all others answer a text. The length, the
comparisons and the drawing of a number need texts, so they fail because of what others have answered.
`Operator.takes` says which operands an operator takes, and `Calculation.runs` follows a calculation of any
depth.
-/

namespace BlockStage

open Run

variable {op : Operator} {xs : List Value}

/-! ## Operands -/

def Value.isTextual : Value → Bool
  | text _ => true
  | _ => false

/-- A number that can be shown. -/
inductive Value.IsDrawn : Value → Prop
  | int {n : Int} (h : n.natAbs < 10 ^ digitLimit) : IsDrawn (Value.int n)
  | float (x : Float) : IsDrawn (Value.float x)

/-- What an operator can answer: a text, a number that was drawn, or nothing. -/
inductive Value.IsAnswer : Value → Prop
  | text (s : String) : IsAnswer (Value.text s)
  | int {n : Int} (h : n.natAbs < 10 ^ digitLimit) : IsAnswer (Value.int n)
  | float (x : Float) : IsAnswer (Value.float x)
  | null : IsAnswer Value.null

namespace Operator

/-- The names of the operands, for operators that calculations are made of. -/
def slots : Operator → List String
  | add | subtract | multiply => ["NUM1", "NUM2"]
  | join => ["STRING1", "STRING2"]
  | length => ["STRING"]
  | greater | less | equals => ["OPERAND1", "OPERAND2"]
  | random => ["FROM", "TO"]
  | _ => []

/-- Whether an operator takes its operands. Texts are equal to what is no text only if they are not written
like numbers. -/
def takes : Operator → List Value → Bool
  | add, _ | subtract, _ | multiply, _ | join, _ => true
  | equals, [.text s, v] => !Reading.looksNumeric s || v.isTextual
  | _, operands => operands.all Value.isTextual

/-- What an operator answers. -/
def Gives (op : Operator) (operands : List Value) (v : Value) : Prop :=
  if op.takes operands then (if op = .random then v.IsDrawn else v.isTextual = true) else v = .null

end Operator

theorem Value.IsAnswer.asFloat? {v : Value} (h : v.IsAnswer) : ∃ x, v.asFloat? = .ok x := by
  have shown : ∃ s, v.display? = .ok s := by
    cases h with
    | int h => exact ⟨_, Value.display?_int h⟩
    | _ => exact ⟨_, rfl⟩
  obtain ⟨s, shown⟩ := shown
  unfold Value.asFloat?
  split
  · exact ⟨_, rfl⟩
  · exact ⟨0.0, by rw [shown]; rfl⟩

theorem Operator.Gives.isAnswer {v : Value} (h : op.Gives xs v) : v.IsAnswer := by
  unfold Gives at h
  split at h
  · split at h
    · cases h with
      | int h => exact .int h
      | float x => exact .float x
    · cases v <;> cases h
      exact .text _
  · exact h ▸ .null

/-! ## Drawing a number -/

theorem Host.pick_lt {k low high : Int} {m : Nat} (hlow : low.natAbs < m) (hhigh : high.natAbs < m) :
    (pick k (min low high) (max low high)).natAbs < m := by
  have span : 0 < max low high - min low high + 1 := by omega
  have least := Int.fmod_nonneg_of_pos k span
  have most := Int.fmod_lt_of_pos k span
  unfold pick
  omega

theorem Host.uniform_float (k : Int) (x y : Float) : ∃ z, uniform k (.float x) (.float y) = .ok (.float z) := by
  have parts : ∀ n < 1000, (Binary.ofQuotient? (n : Nat) 1000).toOption.isSome = true := by decide +kernel
  have least : 0 ≤ Int.fmod k 1000 := Int.fmod_nonneg_of_pos k (by decide)
  have most : Int.fmod k 1000 < 1000 := Int.fmod_lt_of_pos k (by decide)
  obtain ⟨n, hn⟩ := Int.eq_ofNat_of_zero_le least
  have part := parts n (by omega)
  rw [uniform, Number.div, hn]
  cases quotient : Binary.ofQuotient? n 1000 with
  | error f => rw [quotient] at part; cases part
  | ok q => exact ⟨_, rfl⟩

variable {p : Player} {w w' : World} {me : Nat}

/-- A number is drawn between two texts. -/
theorem Operator.drawRandom_texts (a b : String) (w : World) : ∃ v drawn, v.IsDrawn ∧
    ((drawRandom [("FROM", .text a), ("TO", .text b)]).perform p).play w =
      (.ok v, { w with host := { w.host with drawn } }) := by
  unfold drawRandom
  rw [show Arguments.need [("FROM", .text a), ("TO", .text b)] "FROM" = .ok (.text a) from rfl,
    show Arguments.need [("FROM", .text a), ("TO", .text b)] "TO" = .ok (.text b) from rfl]
  simp only [Act.lift_ok_bind, Value.add?, Value.contains?, Comparison.numberOf_eq]
  split
  · obtain ⟨x, y, sorted⟩ : ∃ x y, sortPair (.float (Comparison.numberOf a)) (.float (Comparison.numberOf b)) =
        (.float x, .float y) := by
      unfold sortPair
      split <;> exact ⟨_, _, rfl⟩
    obtain ⟨z, hz⟩ := Host.uniform_float w.host.chance.1 x y
    refine ⟨.num (.float z), w.host.drawn + 1, .float z, ?_⟩
    rw [sorted]
    show (((liftM (Host.uniform w.host.chance.1 (.float x) (.float y)) : Act Number) >>= fun v =>
      (pure (.num v) : Act Value)).perform p).play _ = _
    rw [hz]
    rfl
  · refine ⟨_, w.host.drawn + 1, .int (Host.pick_lt (Value.asInt_lt a) (Value.asInt_lt b)), rfl⟩

/-- A number is not drawn between others than texts. -/
theorem Operator.drawRandom_fails {x y : Value} (hx : x.IsAnswer) (hy : y.IsAnswer)
    (h : [x, y].all Value.isTextual = false) (w : World) : ∃ f : Fault,
    ((drawRandom [("FROM", x), ("TO", y)]).perform p).play w = (.error (.fault f), w) := by
  obtain ⟨f, failed⟩ : ∃ f, (x.add? y >>= fun both => both.contains? (.text ".")) = .error f := by
    cases hx <;> cases hy
    case text.text => cases h
    case int.float | float.int =>
      show ∃ f, ((Number.add _ _).map Value.num >>= _) = _
      generalize Number.add _ _ = sum
      cases sum <;> exact ⟨_, rfl⟩
    all_goals exact ⟨_, rfl⟩
  refine ⟨f, ?_⟩
  unfold drawRandom
  rw [show Arguments.need [("FROM", x), ("TO", y)] "FROM" = .ok x from rfl,
    show Arguments.need [("FROM", x), ("TO", y)] "TO" = .ok y from rfl]
  simp only [Act.lift_ok_bind]
  rw [← bind_assoc, ← Act.lift_bind, failed]
  rfl

/-! ## Rules -/

namespace Operator

theorem arithmetic_floats (op : Float → Float → Float) {a b : Value} {x y : Float} (ha : a.asFloat? = .ok x)
    (hb : b.asFloat? = .ok y) : arithmetic (fun x y => .ok (op x y)) [("NUM1", a), ("NUM2", b)] =
      .ok (.text (floatText (op x y))) := by
  unfold arithmetic
  rw [show Arguments.need [("NUM1", a), ("NUM2", b)] "NUM1" = .ok a from rfl,
    show Arguments.need [("NUM1", a), ("NUM2", b)] "NUM2" = .ok b from rfl]
  simp only [bind, Except.bind, ha, hb]
  rfl

theorem comparison_untextual (onNumbers : Float → Float → Bool) (onValues : Value → Value → Except Fault Bool)
    (a : String) {y : Value} (hy : y.IsAnswer) (h : y.isTextual = false) :
    comparison onNumbers onValues [("OPERAND1", .text a), ("OPERAND2", y)] =
      if Reading.looksNumeric a then .error .missingMember else (onValues (.text a) y).map Value.truth := by
  unfold comparison
  rw [show Arguments.need [("OPERAND1", .text a), ("OPERAND2", y)] "OPERAND1" = .ok (.text a) from rfl]
  show (if Reading.looksNumeric a then _ else _ : Except Fault Value) = _
  split
  · cases hy <;> cases h <;> rfl
  · show (onValues (.text a) y >>= _) = _
    cases onValues (.text a) y <;> rfl

theorem texts_of_all {x y : Value} (h : [x, y].all Value.isTextual = true) :
    ∃ a b, x = .text a ∧ y = .text b := by
  cases x <;> cases y <;> first | exact ⟨_, _, rfl, rfl⟩ | cases h

theorem rule_gives {rule : Arguments → Except Fault Value} (h : op.rule? = some rule)
    (sized : xs.length = op.slots.length) (known : op.slots ≠ []) (answers : ∀ x ∈ xs, x.IsAnswer) :
    (op.takes xs = true ∧ ∃ s, rule (op.slots.zip xs) = .ok (.text s)) ∨
      (op.takes xs = false ∧ ∃ f, rule (op.slots.zip xs) = .error f) := by
  cases op <;> cases h <;> try exact absurd rfl known
  case length =>
    obtain ⟨x, rfl⟩ := List.length_eq_one_iff.1 sized
    cases answers x (.head _)
    case text => exact .inl ⟨rfl, _, rfl⟩
    all_goals exact .inr ⟨rfl, _, rfl⟩
  all_goals
    obtain ⟨x, y, rfl⟩ := List.length_eq_two.1 sized
    have hx := answers x (.head _)
    have hy := answers y (.tail _ (.head _))
  case join => exact .inl ⟨rfl, _, rfl⟩
  case add | subtract | multiply =>
    obtain ⟨a, ha⟩ := hx.asFloat?
    obtain ⟨b, hb⟩ := hy.asFloat?
    exact .inl ⟨rfl, _, arithmetic_floats _ ha hb⟩
  case greater | less | equals =>
    cases hx
    case text a =>
      cases textual : y.isTextual with
      | true =>
        obtain ⟨_, b, -, rfl⟩ := texts_of_all (x := .text a) (by simpa [Value.isTextual] using textual)
        exact .inl ⟨by simp [takes, Value.isTextual], _, comparison_texts _ rfl rfl rfl⟩
      | false =>
        have compared := fun onNumbers onValues => comparison_untextual onNumbers onValues a hy textual
        cases numeric : Reading.looksNumeric a with
        | true =>
          simp only [numeric, if_true] at compared
          exact .inr ⟨by simp [takes, textual, numeric], _, compared _ _⟩
        | false =>
          simp only [numeric, Bool.false_eq_true, if_false] at compared
          first
          | exact .inl ⟨by simp [takes, numeric], _, compared _ _⟩
          | cases hy <;> cases textual <;> exact .inr ⟨rfl, _, compared _ _⟩
    all_goals exact .inr ⟨rfl, _, rfl⟩

theorem upper_slots (op : Operator) : ∀ slot ∈ op.slots, Text.upper slot = slot := by
  cases op <;> decide +kernel

theorem act_gives {flag : Value} (sized : xs.length = op.slots.length)
    (known : op.slots ≠ []) (answers : ∀ x ∈ xs, x.IsAnswer)
    (taken : ((Arguments.eval me flag).perform p).play w = (.ok (op.slots.zip xs), w')) :
    ∃ (r : Except Fault Value) (drawn : Nat), op.Gives xs (answerOf r) ∧
      (∀ v, r = .ok v → v.isNull = false) ∧
      ((op.act me flag).perform p).play w = (r.mapError (.fault ·), { w' with host := { w'.host with drawn } }) := by
  cases hrule : op.rule? with
  | some rule =>
    refine ⟨rule (op.slots.zip xs), w'.host.drawn, ?_, ?_, ?_⟩
    · have other : op ≠ .random := by rintro rfl; cases hrule
      rcases rule_gives hrule sized known answers with ⟨takes, s, gives⟩ | ⟨takes, f, fails⟩
      · simp [Gives, takes, gives, other, answerOf, Value.isTextual]
      · simp [Gives, takes, fails, answerOf]
    · intro v hv
      rcases rule_gives hrule sized known answers with ⟨-, s, gives⟩ | ⟨-, f, fails⟩
      · cases gives.symm.trans hv
        rfl
      · cases fails.symm.trans hv
    · rw [act_rule hrule, Act.play_bind_ok taken, Act.perform_lift, play_lift]
  | none =>
    obtain rfl : op = .random := by cases op <;> first | rfl | cases hrule
    obtain ⟨x, y, rfl⟩ := List.length_eq_two.1 sized
    have acts : ((random.act me flag).perform p).play w =
        ((drawRandom [("FROM", x), ("TO", y)]).perform p).play w' := by
      unfold act
      rw [Act.play_bind_ok taken]
      rfl
    have hx := answers x (.head _)
    have hy := answers y (.tail _ (.head _))
    cases texts : [x, y].all Value.isTextual with
    | true =>
      obtain ⟨a, b, rfl, rfl⟩ := texts_of_all texts
      obtain ⟨v, drawn, isDrawn, draws⟩ := drawRandom_texts (p := p) a b w'
      refine ⟨.ok v, drawn, isDrawn, ?_, acts.trans draws⟩
      rintro _ ⟨⟩
      cases isDrawn <;> rfl
    | false =>
      obtain ⟨f, fails⟩ := drawRandom_fails (p := p) hx hy texts w'
      refine ⟨.error f, w'.host.drawn, ?_, ?_, acts.trans fails⟩
      · simp [Gives, takes, texts, answerOf]
      · intro v hv
        cases hv

end Operator

/-! ## Calculations -/

/-- Operators on numerals and on what other operators answer. -/
inductive Calculation where
  | numeral (n : Int)
  | length (id : String) (operand : Calculation)
  | binary (id : String) (op : Operator) (first second : Calculation)

/-- The failure that a line of the log tells of, by the id of the block. -/
def LogLine.failed? : LogLine → Option String
  | blockFailed id _ => some id
  | _ => none

/-- The blocks that fail: those that answer nothing. -/
def Value.failedAt (v : Value) (id : String) : List String := if v.isNull then [id] else []

namespace Calculation

/-- How many blocks there are. -/
def size : Calculation → Nat
  | numeral _ => 0
  | length _ a => a.size + 1
  | binary _ _ a b => a.size + b.size + 1

/-- The id of the block on top. -/
def id? : Calculation → Option String
  | numeral _ => none
  | length id _ | binary id _ _ _ => some id

/-- What the input of a block is written as that stands for a calculation: a literal, or the id of the block
on top, which covers a literal. -/
inductive WrittenAs : Calculation → Value → Prop
  | numeral (n : Int) (kind : Value) (rest : List Value) :
    WrittenAs (.numeral n) (.list [Value.int 1, .list (kind :: .text (intText n) :: rest)])
  | block {c : Calculation} {id : String} (top : c.id? = some id) (h : id ≠ "") (rest : List Value) :
    WrittenAs c (.list (Value.int 3 :: .text id :: rest))

/-- A block for an operator whose inputs are written as some calculations. -/
def BlockFor (t : Table Block) (id : String) (op : Operator) (operands : List Calculation) : Prop :=
  ∃ b opcode values, Table.get? t id = some b ∧ b.opcode? = .ok (.text opcode) ∧
    Operator.ofName? opcode = some op ∧ b.next = .null ∧ op.slots ≠ [] ∧ operands.length = op.slots.length ∧
    b.Holds (op.slots.zip values) [] ∧ List.Forall₂ WrittenAs operands values

def Written (t : Table Block) : Calculation → Prop
  | numeral _ => True
  | length id a => BlockFor t id .length [a] ∧ a.Written t
  | binary id op a b => BlockFor t id op [a, b] ∧ a.Written t ∧ b.Written t

/-- What a calculation answers and which of its blocks fail, each operator answering as its operands let
it. -/
def Answers : Calculation → Value → List String → Prop
  | numeral n, v, failed => v = .text (intText n) ∧ failed = []
  | length id a, v, failed => ∃ x f, a.Answers x f ∧ Operator.length.Gives [x] v ∧ failed = f ++ v.failedAt id
  | binary id op a b, v, failed => ∃ x f y g, a.Answers x f ∧ b.Answers y g ∧ op.Gives [x, y] v ∧
      failed = f ++ g ++ v.failedAt id

theorem Answers.isAnswer {c : Calculation} {v : Value} {failed : List String} (h : c.Answers v failed) :
    v.IsAnswer := by
  cases c with
  | numeral n => exact h.1 ▸ .text _
  | length id a =>
    obtain ⟨_, _, -, gives, -⟩ := h
    exact gives.isAnswer
  | binary id op a b =>
    obtain ⟨_, _, _, _, -, -, gives, -⟩ := h
    exact gives.isAnswer

end Calculation

/-- A world in which some blocks were entered, of which some have failed, and numbers were drawn. -/
def World.Calculated (w : World) (size : Nat) (failed : List String) (w' : World) : Prop :=
  ∃ (lines : List LogLine) (drawn : Nat), lines.filterMap LogLine.failed? = failed ∧
    w' = { w with
      log := w.log ++ lines.toArray, fuel := w.fuel - size, host := { w.host with drawn } }

namespace World.Calculated

variable {m n : Nat} {f g : List String} {w'' : World}

theorem refl (w : World) : w.Calculated 0 [] w := ⟨[], w.host.drawn, rfl, by simp⟩

theorem trans (h : w.Calculated m f w') (h' : w'.Calculated n g w'') : w.Calculated (m + n) (f ++ g) w'' := by
  obtain ⟨lines, drawn, rfl, rfl⟩ := h
  obtain ⟨more, drawn', rfl, rfl⟩ := h'
  refine ⟨lines ++ more, drawn', by simp, ?_⟩
  have fuel : w.fuel - m - n = w.fuel - (m + n : Nat) := by omega
  simp only [fuel, Array.append_assoc, List.append_toArray]

theorem enter (w : World) (name opcode : String) : w.Calculated 1 [] (w.enter name opcode) :=
  ⟨[.entered name opcode], w.host.drawn, rfl, by simp [World.enter]⟩

theorem draw (w : World) (drawn : Nat) : w.Calculated 0 [] { w with host := { w.host with drawn } } :=
  ⟨[], drawn, rfl, by simp⟩

theorem fail (w : World) (id : String) (why : Fault) : w.Calculated 0 [id] (w.noteFailure (.text id) why) :=
  ⟨[.blockFailed id why], w.host.drawn, rfl, by simp [World.noteFailure]; rfl⟩

theorem reads {name : String} {t : Table Block} (h : w.Calculated m f w') (reads : w.Reads me name t) :
    w'.Reads me name t := by
  obtain ⟨lines, drawn, -, rfl⟩ := h
  exact ⟨reads.running, reads.named, reads.blocks⟩

theorem sprite (h : w.Calculated m f w') (i : Nat) : w'.sprite i = w.sprite i := by
  obtain ⟨lines, drawn, -, rfl⟩ := h
  rfl

theorem fuel (h : w.Calculated m f w') : w'.fuel = w.fuel - m := by
  obtain ⟨lines, drawn, -, rfl⟩ := h
  rfl

end World.Calculated

/-! ## Running a calculation -/

/-- A sprite whose operators can be run. -/
structure World.Computes (w : World) (me : Nat) (name : String) (t : Table Block) : Prop
    extends w.Reads me name t where
  free : ∀ opcode op, Operator.ofName? opcode = some op → (w.sprite me).hides opcode = false

variable {name : String} {t : Table Block} {m : Nat} {f : List String}

theorem World.Calculated.computes (h : w.Calculated m f w') (computes : w.Computes me name t) :
    w'.Computes me name t :=
  ⟨h.reads computes.toReads, by rw [h.sprite]; exact computes.free⟩

namespace Calculation

/-- An operator that is entered and has taken its operands answers, and is told in the log if it fails. -/
theorem BlockFor.answers {id opcode : String} {b : Block} {raw : List (String × Value)}
    {depth : Nat} (computes : w.Computes me name t) (fuelled : 0 < w.fuel)
    (hb : Table.get? t id = some b) (hop : b.opcode? = .ok (.text opcode))
    (named : Operator.ofName? opcode = some op) (last : b.next = .null) (holds : b.Holds raw [])
    (sized : xs.length = op.slots.length) (known : op.slots ≠ []) (answers : ∀ x ∈ xs, x.IsAnswer)
    (taken : ((Arguments.ofInputs me raw []).perform (player depth)).play (w.enter name opcode) =
      (.ok (op.slots.zip xs), w'))
    (calculated : (w.enter name opcode).Calculated m f w') (next : Bool) :
    ∃ v w'', ((player (depth + 1)).run me (.text id) next).play w = (.ok v, w'') ∧ op.Gives xs v ∧
      w.Calculated (m + 1) (f ++ v.failedAt id) w'' := by
  have entering : w.Calculated 1 [] (w.enter name opcode) := .enter w name opcode
  have meets := (entering.reads computes.toReads).meets hb
  have evals := (Arguments.eval_play (player depth) meets.flag_ne_null meets.found holds).trans taken
  obtain ⟨r, drawn, gives, some, acts⟩ := Operator.act_gives sized known answers evals
  obtain ⟨member, usual⟩ := Operator.member named
  have used : Member.ofName? ((w.enter name opcode).sprite me) opcode = _ :=
    (Member.ofName?_of_free (computes.free opcode op named) usual).trans member
  obtain ⟨w'', contained, ends⟩ : ∃ w'', (actBlock (player depth) me (.text id) opcode).play
      (w.enter name opcode) = (.ok (answerOf r), w'') ∧
        w.Calculated (m + 1) (f ++ (answerOf r).failedAt id) w'' := by
    have drawing := (entering.trans calculated).trans (.draw w' drawn)
    have invoked : (Member.block (.operator op)).invoke me [.text id] = op.act me (.text id) := rfl
    rw [actBlock_member _ used, contain_play, invoked, acts]
    cases r with
    | ok v =>
      refine ⟨_, rfl, ?_⟩
      simpa [Value.failedAt, answerOf, some v rfl, Nat.add_comm] using drawing
    | error why =>
      refine ⟨_, rfl, ?_⟩
      have failing := drawing.trans (.fail _ id why)
      simpa [Value.failedAt, answerOf, Value.isNull, Nat.add_comm] using failing
  refine ⟨answerOf r, w'', ?_, gives, ends⟩
  refine (runWith_play (player depth) next (computes.toReads.meets hb) hop).trans ?_
  rw [play_bind_ok (enterBlock_fuelled (by omega)), play_bind_ok contained]
  cases next with
  | false => rfl
  | true => exact goOn_last (player depth) _ ((ends.reads computes.toReads).meets hb).found last

/-- A calculation is carried out from any world in which it can be. -/
def Runs (c : Calculation) (me : Nat) (name : String) (t : Table Block) : Prop :=
  ∀ (w : World) depth id next, c.id? = some id → w.Computes me name t → c.size ≤ w.fuel → c.size ≤ depth →
    ∃ v failed w', ((player depth).run me (.text id) next).play w = (.ok v, w') ∧ c.Answers v failed ∧
      w.Calculated c.size failed w'

theorem Runs.take {c : Calculation} {value : Value} {slot : String} (runs : c.Runs me name t) (depth : Nat)
    (computes : w.Computes me name t) (fuelled : c.size ≤ w.fuel) (deep : c.size ≤ depth)
    (written : c.WrittenAs value) (upper : Text.upper slot = slot) (rest : List (String × Value))
    (args : Arguments) : ∃ x failed w', c.Answers x failed ∧ w.Calculated c.size failed w' ∧
      ((Arguments.ofInputs me ((slot, value) :: rest) args).perform (player depth)).play w =
        ((Arguments.ofInputs me rest (Table.put args slot x)).perform (player depth)).play w' := by
  rw [Arguments.ofInputs]
  cases written with
  | numeral n kind rest' =>
    have read := (Operand.WrittenAs.literal kind (.text (intText n)) rest').read
    refine ⟨.text (intText n), [], w, ⟨rfl, rfl⟩, .refl w, ?_⟩
    rw [read, Act.lift_ok_bind]
    show ((Arguments.ofInputs me rest (Table.put args (Text.upper slot) _)).perform (player depth)).play w = _
    rw [upper]
  | @block _ id top h rest' =>
    have read : Input.ofValue? (.list (Value.int 3 :: .text id :: rest')) = .ok (.reporter (.text id)) :=
      (Operand.WrittenAs.covering (.node id "" .nil) rest' h).read
    obtain ⟨v, failed, w', ran, answers, calculated⟩ := runs w depth id true top computes fuelled deep
    refine ⟨v, failed, w', answers, calculated, ?_⟩
    have given : ((Arguments.ofInput me (.reporter (.text id))).perform (player depth)).play w =
        (.ok (some v), w') := by
      rw [Arguments.ofInput, Act.perform_bind, Act.perform_run, play_bind_ok ran]
      rfl
    rw [read, Act.lift_ok_bind, Act.play_bind_ok given]
    show ((Arguments.ofInputs me rest (Table.put args (Text.upper slot) _)).perform (player depth)).play w' = _
    rw [upper]

theorem Runs.length {id : String} {a : Calculation} (block : BlockFor t id .length [a])
    (first : a.Runs me name t) : (length id a).Runs me name t := by
  rintro w depth _ next ⟨⟩ computes fuelled deep
  obtain ⟨b, opcode, values, hb, hop, named, last, known, sized, holds, written⟩ := block
  obtain _ | @⟨_, value, _, _, hv, ⟨⟩⟩ := written
  obtain _ | depth := depth
  · cases deep
  have entering : w.Calculated 1 [] (w.enter name opcode) := .enter w name opcode
  have size : (Calculation.length id a).size = a.size + 1 := rfl
  have fuel := entering.fuel
  obtain ⟨x, failed, w', answers, calculated, taken⟩ := first.take depth (entering.computes computes)
    (by omega) (by omega) hv (Operator.upper_slots .length _ (.head _)) [] []
  obtain ⟨v, w'', ran, gives, ends⟩ := BlockFor.answers computes (by omega) hb hop named last holds sized known
    (List.forall_mem_singleton.2 answers.isAnswer) taken calculated next
  exact ⟨v, _, w'', ran, ⟨x, failed, answers, gives, rfl⟩, ends⟩

theorem Runs.binary {id : String} {a b : Calculation} (block : BlockFor t id op [a, b])
    (first : a.Runs me name t) (second : b.Runs me name t) : (binary id op a b).Runs me name t := by
  rintro w depth _ next ⟨⟩ computes fuelled deep
  obtain ⟨block, opcode, values, hb, hop, named, last, known, sized, holds, written⟩ := block
  obtain ⟨slot, slot', slots⟩ := List.length_eq_two.1 sized.symm
  obtain _ | @⟨_, value, _, _, hv, _ | @⟨_, value', _, _, hv', ⟨⟩⟩⟩ := written
  obtain _ | depth := depth
  · cases deep
  have upper := Operator.upper_slots op
  have entering : w.Calculated 1 [] (w.enter name opcode) := .enter w name opcode
  have size : (Calculation.binary id op a b).size = a.size + b.size + 1 := rfl
  have fuel := entering.fuel
  have distinct : op.slots.Nodup := by cases op <;> decide
  rw [slots] at upper holds distinct
  obtain ⟨x, failed, w1, answers, calculated, taken⟩ := first.take depth (entering.computes computes)
    (by omega) (by omega) hv (upper slot (.head _)) [(slot', value')] []
  have fuel1 := calculated.fuel
  obtain ⟨y, failed', w2, answers', calculated', taken'⟩ := second.take depth
    (calculated.computes (entering.computes computes)) (by omega) (by omega) hv'
    (upper slot' (.tail _ (.head _))) [] (Table.put [] slot x)
  have other : slot ≠ slot' := by simpa using distinct
  have given : ((Arguments.ofInputs me [(slot, value), (slot', value')] []).perform (player depth)).play
      (w.enter name opcode) = (.ok (op.slots.zip [x, y]), w2) := by
    rw [slots, taken, taken']
    simp only [Table.put, if_neg other]
    rfl
  obtain ⟨v, w'', ran, gives, ends⟩ := BlockFor.answers computes (by omega) hb hop named last holds sized known
    (by simpa using ⟨answers.isAnswer, answers'.isAnswer⟩) given (calculated.trans calculated') next
  exact ⟨v, _, w'', ran, ⟨x, failed, y, failed', answers, answers', gives, rfl⟩, ends⟩

/-- Every calculation is carried out to its end. -/
theorem runs {c : Calculation} (written : c.Written t) : c.Runs me name t := by
  induction c with
  | numeral n =>
    intro w depth id next top
    cases top
  | length id a ih => exact .length written.1 (ih written.2)
  | binary id op a b ih ih' => exact .binary written.1 (ih written.2.1) (ih' written.2.2)

/-! ## Random numbers as operands -/

def isRandom : Calculation → Bool
  | binary _ op _ _ => op = .random
  | _ => false

/-- Whether no random number is an operand of some operators. -/
def avoids (ops : List Operator) : Calculation → Bool
  | numeral _ => true
  | length _ a => !(.length ∈ ops && a.isRandom) && a.avoids ops
  | binary _ op a b => !(op ∈ ops && (a.isRandom || b.isRandom)) && a.avoids ops && b.avoids ops

/-- The operators that need texts. -/
def strict : List Operator := [.length, .greater, .less, .random]

variable {c : Calculation} {v : Value} {failed : List String}

theorem Answers.untextual (h : c.Answers v failed) (random : c.isRandom = true) : v.isTextual = false := by
  cases c with
  | numeral n => cases random
  | length id a => cases random
  | binary id op a b =>
    obtain ⟨_, _, _, _, -, -, gives, -⟩ := h
    obtain rfl : op = .random := of_decide_eq_true random
    unfold Operator.Gives at gives
    split at gives
    · cases gives <;> rfl
    · rw [gives]
      rfl

end Calculation

namespace Operator

variable {op : Operator} {xs : List Value} {v : Value} (id : String)

theorem takes_strict (h : op ∈ Calculation.strict) : op.takes xs = xs.all Value.isTextual := by
  simp only [Calculation.strict, List.mem_cons, List.not_mem_nil, or_false] at h
  rcases h with rfl | rfl | rfl | rfl <;> rfl

theorem Gives.failed (gives : op.Gives xs v) (h : op ∈ Calculation.strict) {x : Value} (mem : x ∈ xs)
    (untextual : x.isTextual = false) : v.failedAt id = [id] := by
  have none : op.takes xs = false := by
    rw [takes_strict h, List.all_eq_false]
    exact ⟨x, mem, by simp [untextual]⟩
  rw [Gives, none] at gives
  cases gives
  rfl

theorem Gives.composes (gives : op.Gives xs v) (known : op.slots ≠ []) (sized : xs.length = op.slots.length)
    (texts : op ∈ .equals :: Calculation.strict → xs.all Value.isTextual = true) :
    v.failedAt id = [] ∧ if op = .random then v.IsDrawn else v.isTextual = true := by
  have takes : op.takes xs = true := by
    cases op
    case add | subtract | multiply | join => rfl
    case equals =>
      obtain ⟨x, y, rfl⟩ := List.length_eq_two.1 sized
      have texts := texts (by decide)
      cases x <;> simp_all [Operator.takes, Value.isTextual]
    case length | greater | less | random => exact (takes_strict (by decide)).trans (texts (by decide))
    all_goals exact absurd rfl known
  rw [Gives, if_pos takes] at gives
  refine ⟨?_, gives⟩
  have some : v.isNull = false := by
    split at gives
    · cases gives <;> rfl
    · cases v <;> first | rfl | cases gives
  rw [Value.failedAt, some]
  rfl

end Operator

namespace Calculation

variable {c : Calculation} {v : Value} {failed : List String}

/-- A calculation in which an operator that needs texts is given a random number fails somewhere. -/
theorem Answers.fails (h : c.Answers v failed) (clash : c.avoids strict = false) : failed ≠ [] := by
  induction c generalizing v failed with
  | numeral n => cases clash
  | length id a ih =>
    obtain ⟨x, f, first, gives, rfl⟩ := h
    simp only [avoids, Bool.and_eq_false_iff, Bool.not_eq_false', Bool.and_eq_true, decide_eq_true_eq] at clash
    rcases clash with ⟨strict, random⟩ | clash
    · rw [gives.failed id strict (.head _) (first.untextual random)]
      exact List.append_ne_nil_of_right_ne_nil _ (List.cons_ne_nil _ _)
    · exact List.append_ne_nil_of_left_ne_nil (ih first clash) _
  | binary id op a b ih ih' =>
    obtain ⟨x, f, y, g, first, second, gives, rfl⟩ := h
    simp only [avoids, Bool.and_eq_false_iff, Bool.not_eq_false', Bool.and_eq_true, Bool.or_eq_true,
      decide_eq_true_eq] at clash
    have failing : ∀ z ∈ [x, y], z.isTextual = false → op ∈ strict → f ++ g ++ v.failedAt id ≠ [] := by
      intro z mem untextual strict
      rw [gives.failed id strict mem untextual]
      exact List.append_ne_nil_of_right_ne_nil _ (List.cons_ne_nil _ _)
    rcases clash with (⟨strict, random | random⟩ | clash) | clash
    · exact failing x (.head _) (first.untextual random) strict
    · exact failing y (.tail _ (.head _)) (second.untextual random) strict
    · exact List.append_ne_nil_of_left_ne_nil (List.append_ne_nil_of_left_ne_nil (ih first clash) _) _
    · exact List.append_ne_nil_of_left_ne_nil (List.append_ne_nil_of_right_ne_nil _ (ih' second clash)) _

/-- A calculation in which no operator that needs a text is given a random number does not fail. -/
theorem Answers.composes (h : c.Answers v failed) (written : c.Written t)
    (apart : c.avoids (.equals :: strict) = true) :
    failed = [] ∧ if c.isRandom then v.IsDrawn else v.isTextual = true := by
  induction c generalizing v failed with
  | numeral n =>
    obtain ⟨rfl, rfl⟩ := h
    exact ⟨rfl, rfl⟩
  | length id a ih =>
    obtain ⟨x, f, first, gives, rfl⟩ := h
    simp only [avoids, Bool.and_eq_true, Bool.not_eq_true', Bool.and_eq_false_iff, decide_eq_false_iff_not] at apart
    obtain ⟨-, -, -, -, -, -, -, known, sized, -⟩ := written.1
    obtain ⟨rfl, text⟩ := ih first written.2 apart.2
    have other : a.isRandom = false := apart.1.resolve_left fun absent => absent (by decide)
    rw [other] at text
    obtain ⟨failed, textual⟩ := gives.composes id known sized fun _ => by simpa using text
    exact ⟨failed, textual⟩
  | binary id op a b ih ih' =>
    obtain ⟨x, f, y, g, first, second, gives, rfl⟩ := h
    simp only [avoids, Bool.and_eq_true, Bool.not_eq_true', Bool.and_eq_false_iff, Bool.or_eq_false_iff,
      decide_eq_false_iff_not] at apart
    obtain ⟨-, -, -, -, -, -, -, known, sized, -⟩ := written.1
    obtain ⟨rfl, text⟩ := ih first written.2.1 apart.1.2
    obtain ⟨rfl, text'⟩ := ih' second written.2.2 apart.2
    obtain ⟨failed, textual⟩ := gives.composes id known sized fun needs => by
      obtain ⟨other, other'⟩ := apart.1.1.resolve_left (· needs)
      rw [other] at text
      rw [other'] at text'
      simpa using ⟨text, text'⟩
    exact ⟨by rw [failed]; rfl, by simpa [isRandom] using textual⟩

/-- Every operator of a calculation answers what its operands let it answer, and those that fail are told in the
log. An operator that needs texts fails on random numbers and on what has failed. Otherwise none fails, and all
of them answer texts but those that draw the numbers. -/
theorem runBlock_answers {id : String} (computes : w.Computes me name t) (top : c.id? = some id)
    (written : c.Written t) (fuelled : c.size ≤ w.fuel) (next : Bool) :
    ∃ v failed w', (runBlock me (.text id) next).play w = (.ok v, w') ∧ c.Answers v failed ∧
      w.Calculated c.size failed w' ∧
      (c.avoids strict = false → failed ≠ []) ∧
      (c.avoids (.equals :: strict) = true →
        failed = [] ∧ if c.isRandom then v.IsDrawn else v.isTextual = true) := by
  obtain ⟨v, failed, w', ran, answers, calculated⟩ :=
    runs written w (2 * w.fuel.toNat + 3 + 1) id next top computes fuelled (by omega)
  exact ⟨v, failed, w', (runBlock_play me (.text id) next w).trans ran, answers, calculated, answers.fails,
    answers.composes written⟩

end Calculation

/-- A random number, its length, and its sum with two. -/
def drawingBlocks : Table Block :=
  let drawn := Value.list [Value.int 3, .text "r", .list [Value.int 10, .text ""]]
  [("r", .plain "operator_random" [("FROM", .literal "1"), ("TO", .literal "10")]),
    ("l", .plain "operator_length" [("STRING", drawn)]),
    ("s", .plain "operator_add" [("NUM1", drawn), ("NUM2", .literal "2")])]

/-- The sum is a text, although the number that is drawn is none. -/
theorem Calculation.runBlock_answers_sum :
    let c := Calculation.binary "s" .add (.binary "r" .random (.numeral 1) (.numeral 10)) (.numeral 2)
    let w := World.ofBlocks drawingBlocks
    (w.Computes 0 "Cat" drawingBlocks ∧ c.Written drawingBlocks) ∧
      ∃ s w', (runBlock 0 (.text "s")).play w = (.ok (.text s), w') ∧ w.Calculated 2 [] w' := by
  intro c w
  have computes : w.Computes 0 "Cat" drawingBlocks := by
    refine ⟨⟨rfl, rfl, rfl⟩, fun opcode op named => ?_⟩
    unfold Operator.ofName? at named
    split at named <;> first | rfl | cases named
  have written : c.Written drawingBlocks :=
    ⟨⟨_, _, [_, _], rfl, rfl, rfl, rfl, by decide, rfl, ⟨rfl, [], rfl, rfl⟩,
        .cons (.block rfl (by decide) _) (.cons (.numeral 2 _ _) .nil)⟩,
      ⟨⟨_, _, [_, _], rfl, rfl, rfl, rfl, by decide, rfl, ⟨rfl, [], rfl, rfl⟩,
        .cons (.numeral 1 _ _) (.cons (.numeral 10 _ _) .nil)⟩, trivial, trivial⟩, trivial⟩
  obtain ⟨v, failed, w', ran, -, calculated, -, composes⟩ :=
    runBlock_answers computes (c := c) rfl written (by decide) true
  obtain ⟨rfl, text⟩ := composes rfl
  refine ⟨⟨computes, written⟩, ?_⟩
  cases v with
  | text s => exact ⟨s, w', ran, calculated⟩
  | _ => cases text

/-- The length of a random number is nothing, and the number itself is no text. -/
theorem Calculation.length_of_random_fails : let w := World.ofBlocks drawingBlocks
    ((runBlock 0 (.text "r")).play w).1 = .ok (Value.int 1) ∧
      ((runBlock 0 (.text "l")).play w).1 = .ok .null ∧
      ((runBlock 0 (.text "l")).play w).2.log.toList = [.entered "Cat" "operator_length",
        .entered "Cat" "operator_random", .blockFailed "l" .wrongKind] :=
  ⟨rfl, rfl, rfl⟩

end BlockStage
