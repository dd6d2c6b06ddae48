import BlockStage.Proofs.Run.Yields
import BlockStage.Proofs.Script.Structured

/-!
# Formulas

A formula is an operator whose operands are literals, variables and formulas. Its value is defined by
recursion on its structure; the operator around one that fails goes on with nothing in its place.

`runBlock_formula` says that running the root gives this value, enters the blocks in this order, and changes
nothing but the log and the fuel. What carries the proof is `Run.Logs`: a run that only adds given lines to
the log, and is killed if the fuel does not last.
-/

namespace BlockStage

open Run

/-! ## Rules -/

namespace Operator

theorem act_rule {op : Operator} {rule : Arguments → Except Fault Value} (h : op.rule? = some rule)
    (me : Nat) (flag : Value) : op.act me flag = (do
      let args ← Arguments.eval me flag
      rule args) := by
  simp only [act, h]

theorem member {opcode : String} {op : Operator} (h : ofName? opcode = some op) :
    Member.ofName? default opcode = some (.block (.operator op)) ∧ opcode ∉ Member.always := by
  unfold ofName? at h
  split at h <;> cases h <;> exact ⟨rfl, by decide⟩

end Operator

def ruleOf? (opcode : String) : Option (Arguments → Except Fault Value) :=
  (Operator.ofName? opcode).bind Operator.rule?

/-! ## Meaning -/

/-- What a formula can see of the world. -/
structure Sight where
  /-- The value of a variable. -/
  lookUp : Value → Except Fault Value
  /-- Whether an attribute of the sprite hides an operator. -/
  hides : String → Bool

def World.sight (w : World) (me : Nat) : Sight := ⟨w.variableValue? me, (w.sprite me).hides⟩

def answerOf : Except Fault Value → Value
  | .ok v => v
  | .error _ => .null

def failureOf (id : String) : Except Fault Value → List LogLine
  | .ok _ => []
  | .error f => [.blockFailed id f]

section

variable (s : Sight)

mutual

/-- What comes of a formula: an operator that is hidden cannot be used, and else its rule is applied to
what the operands gave. -/
def Reporter.outcome : Reporter → Except Fault Value
  | .node _ opcode inputs =>
    if s.hides opcode then .error .wrongKind
    else
      match ruleOf? opcode with
      | some rule => inputs.values [] >>= rule
      | none => .error .unsetLocal

/-- The operands by name, from the first to the last. -/
def Inputs.values : Inputs → Arguments → Except Fault Arguments
  | .nil, args => .ok args
  | .cons name operand rest, args => do
    let v ← operand.value
    rest.values (Table.put args (operand.input.key name) v)

def Operand.value : Operand → Except Fault Value
  | .literal v => .ok v
  | .variable id => s.lookUp id
  | .reporter r => .ok (answerOf r.outcome)
  | .slot r => .ok (.text r.id)
  | .empty => .ok .null

end

def Reporter.value (r : Reporter) : Value := answerOf (r.outcome s)

variable (name : String)

mutual

/-- The lines that running a formula adds to the log. -/
def Reporter.trace : Reporter → List LogLine
  | .node id opcode inputs =>
    .entered name opcode :: ((if s.hides opcode then [] else inputs.trace) ++
      failureOf id ((Reporter.node id opcode inputs).outcome s))

/-- Operands after one that cannot be looked up are not taken. -/
def Inputs.trace : Inputs → List LogLine
  | .nil => []
  | .cons _ operand rest =>
    operand.trace ++
      match operand.value s with
      | .ok _ => rest.trace
      | .error _ => []

def Operand.trace : Operand → List LogLine
  | .reporter r => r.trace
  | _ => []

end

end

section

variable (t : Table Block)

mutual

def Reporter.Formula : Reporter → Prop
  | .node id opcode inputs =>
    (ruleOf? opcode).isSome ∧
    (∃ b raw, Table.get? t id = some b ∧ b.opcode? = .ok (.text opcode) ∧ b.next = .null ∧
      b.Holds raw [] ∧ inputs.Written raw) ∧
    inputs.Formula

def Inputs.Formula : Inputs → Prop
  | .nil => True
  | .cons _ operand rest => operand.Formula ∧ rest.Formula

def Operand.Formula : Operand → Prop
  | .reporter r => r.Formula
  | _ => True

end

end

/-- The ways in which a project writes the operands of a formula down. -/
inductive Operand.WrittenAs : Operand → Value → Prop
  | literal (kind v : Value) (rest : List Value) :
    WrittenAs (.literal v) (.list (Value.int 1 :: .list (kind :: v :: rest) :: []))
  | variable (kind : Int) (name id : Value) (rest : List Value) :
    WrittenAs (.variable id) (.list (Value.int 3 :: .list [Value.int kind, name, id] :: rest))
  | reporter (r : Reporter) (rest : List Value) :
    WrittenAs (.reporter r) (.list (Value.int 1 :: .text r.id :: rest))
  /-- A reporter that covers a literal. -/
  | covering (r : Reporter) (rest : List Value) (h : r.id ≠ "") :
    WrittenAs (.reporter r) (.list (Value.int 3 :: .text r.id :: rest))

theorem Value.position?_of_lt {length n : Nat} (h : n < length) : Value.position? length n = some n := by
  have forward : ¬ (n : Int) < 0 := by omega
  have inside : (0 : Int) ≤ n ∧ (n : Int) < length := by omega
  simp only [Value.position?, if_neg forward, if_pos inside, Int.toNat_natCast]

theorem Value.at?_of_getElem? {items : List Value} {n : Nat} {v : Value} (h : items[n]? = some v) :
    (Value.list items).at? n = .ok v := by
  obtain ⟨inside, -⟩ := List.getElem?_eq_some_iff.1 h
  simp only [Value.at?, Value.position?_of_lt inside, Option.bind_some, h]

theorem Value.at?_text {s : String} (h : s ≠ "") :
    ∃ c : Char, (Value.text s).at? 0 = .ok (.text (String.singleton c)) := by
  obtain ⟨c, rest, hs⟩ : ∃ c rest, s.toList = c :: rest :=
    List.exists_cons_of_ne_nil fun hs => h (String.toList_eq_nil_iff.1 hs)
  refine ⟨c, ?_⟩
  have inside : 0 < s.length := by rw [← String.length_toList, hs]; simp
  have start := Value.position?_of_lt inside
  simp only [Value.at?, show (0 : Int) = ((0 : Nat) : Int) from rfl, start, Option.bind_some, hs,
    List.getElem?_cons_zero]

theorem Operand.WrittenAs.read {operand : Operand} {v : Value} (h : operand.WrittenAs v) :
    Input.ofValue? v = .ok operand.input := by
  have tag : ∀ (n : Int) (rest : List Value), (Value.list (Value.int n :: rest)).at? 0 = .ok (.int n) :=
    fun n rest => Value.at?_of_getElem? (n := 0) rfl
  have second : ∀ (a b : Value) (rest : List Value), (Value.list (a :: b :: rest)).at? 1 = .ok b :=
    fun a b rest => Value.at?_of_getElem? (n := 1) rfl
  cases h with
  | literal kind v rest =>
    simp only [Input.ofValue?, tag, second, bind, Except.bind]
    rfl
  | «variable» kind name id rest =>
    have third : (Value.list [Value.int kind, name, id]).at? 2 = .ok id :=
      Value.at?_of_getElem? (n := 2) rfl
    simp only [Input.ofValue?, tag, second, third, bind, Except.bind]
    rfl
  | reporter r rest =>
    simp only [Input.ofValue?, tag, second, bind, Except.bind]
    rfl
  | covering r rest h =>
    obtain ⟨c, starts⟩ := Value.at?_text h
    simp only [Input.ofValue?, tag, second, starts, bind, Except.bind]
    rfl

/-! ## Runs that only write into the log -/

def entries (lines : List LogLine) : Nat := lines.countP LogLine.isEntry

/-- The world once some lines were written into the log, and the blocks in them entered. -/
def World.after (w : World) (lines : List LogLine) : World :=
  { w with log := w.log ++ lines.toArray, fuel := w.fuel - entries lines }

@[simp] theorem entries_nil : entries [] = 0 := rfl

@[simp] theorem entries_append (lines more : List LogLine) :
    entries (lines ++ more) = entries lines + entries more := List.countP_append

@[simp] theorem World.after_nil (w : World) : w.after [] = w := by
  simp [World.after]

theorem World.after_after (w : World) (lines more : List LogLine) :
    (w.after lines).after more = w.after (lines ++ more) := by
  have fuel : w.fuel - entries lines - entries more = w.fuel - entries (lines ++ more) := by
    rw [entries_append]
    omega
  simp only [World.after, fuel, Array.append_assoc, List.append_toArray]

theorem World.enter_eq_after (w : World) (sprite opcode : String) :
    w.enter sprite opcode = w.after [.entered sprite opcode] := by
  simp [World.enter, World.after, entries, LogLine.isEntry]

theorem World.noteFailure_eq_after (w : World) (id : String) (f : Fault) :
    w.noteFailure (.text id) f = w.after [.blockFailed id f] := by
  simp [World.noteFailure, World.after, entries, LogLine.isEntry]
  rfl

namespace Run

variable {α β : Type}

/-- A run that, from a world, writes these lines and ends so; if the fuel does not last for the blocks
in them, it is killed, and only the log and the fuel have changed. -/
structure Logs (w : World) (r : Run α) (e : Except Fault α) (lines : List LogLine) : Prop where
  lasts : entries lines ≤ w.fuel → r.play w = (e.mapError (.fault ·), w.after lines)
  killed : w.fuel < entries lines →
    ∃ log, r.play w = (.error (.killed .fuel), { w with log := log, fuel := -1 })

namespace Logs

variable {w : World} {r : Run α} {lines more : List LogLine}

theorem of_play {s : Run α} {e : Except Fault α} (h : r.play w = s.play w) (hs : Logs w s e lines) :
    Logs w r e lines where
  lasts enough := h.trans (hs.lasts enough)
  killed dry := by
    obtain ⟨log, killed⟩ := hs.killed dry
    exact ⟨log, h.trans killed⟩

theorem still (awake : 0 ≤ w.fuel) {e : Except Fault α} (h : r.play w = (e.mapError (.fault ·), w)) :
    Logs w r e [] where
  lasts _ := by rw [h, World.after_nil]
  killed dry := absurd dry (by simp; omega)

/-- Goes on from where a run has come, if it was not killed. -/
theorem bind_ok {a : α} {f : α → Run β} {e : Except Fault β} (hr : Logs w r (.ok a) lines)
    (hf : 0 ≤ (w.after lines).fuel → Logs (w.after lines) (f a) e more) :
    Logs w (r >>= f) e (lines ++ more) := by
  have left : (w.after lines).fuel = w.fuel - entries lines := rfl
  refine ⟨fun enough => ?_, fun dry => ?_⟩
  · rw [entries_append] at enough
    rw [play_bind_ok (hr.lasts (by omega)), (hf (by omega)).lasts (by omega), World.after_after]
  · rw [entries_append] at dry
    by_cases first : w.fuel < entries lines
    · obtain ⟨log, killed⟩ := hr.killed first
      exact ⟨log, play_bind_error killed f⟩
    · obtain ⟨log, killed⟩ := (hf (by omega)).killed (by omega)
      exact ⟨log, (play_bind_ok (hr.lasts (by omega)) f).trans killed⟩

theorem bind_error {g : Fault} {f : α → Run β} (hr : Logs w r (.error g) lines) :
    Logs w (r >>= f) (.error g) lines where
  lasts enough := play_bind_error (hr.lasts enough) f
  killed dry := by
    obtain ⟨log, killed⟩ := hr.killed dry
    exact ⟨log, play_bind_error killed f⟩

theorem bind_lift {e : Except Fault α} (hr : Logs w r e lines) (rule : α → Except Fault β) :
    Logs w (r >>= fun a => (liftM (rule a) : Run β)) (e >>= rule) lines := by
  cases e with
  | error g => exact hr.bind_error
  | ok a =>
    refine ⟨fun enough => ?_, fun dry => ?_⟩
    · rw [play_bind_ok (hr.lasts enough), play_lift]
      rfl
    · obtain ⟨log, killed⟩ := hr.killed dry
      exact ⟨log, play_bind_error killed _⟩

theorem enterBlock (awake : 0 ≤ w.fuel) (sprite opcode : String) :
    Logs w (enterBlock sprite opcode) (.ok ()) [.entered sprite opcode] := by
  have one : entries [.entered sprite opcode] = 1 := rfl
  refine ⟨fun enough => ?_, fun dry => ⟨w.log.push (.entered sprite opcode), ?_⟩⟩
  · rw [enterBlock_play, if_neg (by omega), World.enter_eq_after]
    rfl
  · have none : w.fuel - 1 = -1 := by omega
    rw [enterBlock_play, if_pos (by omega), World.enter, none]

/-- A block that fails is given up, and the failure is logged. -/
theorem contain {r : Run Value} {e : Except Fault Value} (hr : Logs w r e lines) (id : String) :
    Logs w (contain (.text id) r) (.ok (answerOf e)) (lines ++ failureOf id e) := by
  have quiet : entries (failureOf id e) = 0 := by cases e <;> rfl
  refine ⟨fun enough => ?_, fun dry => ?_⟩
  · rw [entries_append] at enough
    rw [contain_play, hr.lasts (by omega)]
    cases e with
    | ok v => simp [Except.mapError, failureOf, answerOf]
    | error f =>
      simp only [Except.mapError, World.noteFailure_eq_after, World.after_after]
      rfl
  · rw [entries_append, quiet] at dry
    obtain ⟨log, killed⟩ := hr.killed (by omega)
    refine ⟨log, ?_⟩
    rw [contain_play, killed]

end Logs

end Run

/-! ## Running a formula -/

/-- A sprite whose blocks can be run while the program goes on. -/
structure World.Reads (w : World) (me : Nat) (name : String) (t : Table Block) : Prop where
  running : w.done = false
  named : ((w.sprite me).name?.bind Value.display?) = .ok name
  blocks : w.blocks? me = .ok t

variable {me : Nat} {name : String} {t : Table Block}

namespace World.Reads

variable {w : World}

theorem after (h : w.Reads me name t) (lines : List LogLine) : (w.after lines).Reads me name t :=
  ⟨h.running, h.named, h.blocks⟩

theorem meets (h : w.Reads me name t) {id : String} {b : Block} (hb : Table.get? t id = some b) :
    w.Meets me (.text id) name b :=
  ⟨h.running, h.named, World.block?_of_get? h.blocks hb⟩

end World.Reads

theorem Member.ofName?_of_hides {s : Sprite} {name : String} (h : s.hides name = true) :
    Member.ofName? s name = some .property := by
  have own : Table.has s.fields name = true := h
  simp only [Member.ofName?, Member.isAttribute, own, Bool.true_or, if_true]

/-- An operator, once it is entered: it is used if nothing hides it. -/
theorem actBlock_logs {p : Player} {w : World} {id opcode : String} {b : Block} {inputs : Inputs}
    {raw : List (String × Value)} (awake : 0 ≤ w.fuel) (ruled : (ruleOf? opcode).isSome)
    (hb : w.block? me (.text id) = .ok b) (holds : b.Holds raw [])
    (takes : Logs w ((Arguments.ofInputs me raw []).perform p) (inputs.values (w.sight me) [])
      (inputs.trace (w.sight me) name)) :
    Logs w (actBlock p me (.text id) opcode)
      (.ok ((Reporter.node id opcode inputs).value (w.sight me)))
      ((if (w.sight me).hides opcode then [] else inputs.trace (w.sight me) name) ++
        failureOf id ((Reporter.node id opcode inputs).outcome (w.sight me))) := by
  obtain ⟨rule, hrule⟩ := Option.isSome_iff_exists.1 ruled
  obtain ⟨op, hop, hrules⟩ := Option.bind_eq_some_iff.1 hrule
  obtain ⟨member, known⟩ := Operator.member hop
  rw [Reporter.value, Reporter.outcome, hrule]
  by_cases hidden : (w.sight me).hides opcode
  · have property : Member.ofName? (w.sprite me) opcode = some .property :=
      Member.ofName?_of_hides hidden
    rw [if_pos hidden, if_pos hidden]
    have refused : Logs w ((Member.property.invoke me [.text id]).perform p) (.error .wrongKind) [] :=
      .still awake rfl
    exact .of_play (actBlock_member p property) (refused.contain id)
  · have free : (w.sprite me).hides opcode = false := Bool.eq_false_iff.2 hidden
    have used := (Member.ofName?_of_free free known).trans member
    rw [if_neg hidden, if_neg hidden]
    have evals : Logs w ((Arguments.eval me (.text id)).perform p) (inputs.values (w.sight me) [])
        (inputs.trace (w.sight me) name) := .of_play (Arguments.eval_play p rfl hb holds) takes
    refine .of_play (actBlock_member p used) (.contain ?_ id)
    show Logs w ((op.act me (.text id)).perform p) _ _
    rw [Operator.act_rule hrules]
    simp only [Act.perform_bind, Act.perform_lift]
    exact evals.bind_lift rule

mutual

theorem Reporter.logs : ∀ (r : Reporter), r.Formula t → ∀ (w : World) (depth : Nat) (next : Bool),
    w.Reads me name t → 0 ≤ w.fuel → w.fuel.toNat < depth →
    Logs w ((player depth).run me (.text r.id) next) (.ok (r.value (w.sight me)))
      (r.trace (w.sight me) name)
  | .node id opcode inputs, ⟨ruled, ⟨b, raw, hb, hop, last, holds, written⟩, held⟩, w, depth + 1,
      next, reads, awake, deep => by
    refine .of_play (runWith_play (player depth) next (reads.meets hb) hop) ?_
    refine (Logs.enterBlock awake name opcode).bind_ok fun still => ?_
    -- from here on, one block deeper
    have reads := reads.after [.entered name opcode]
    have shallower : (w.after [.entered name opcode]).fuel = w.fuel - 1 := rfl
    have takes := Inputs.logs inputs held raw written [] _ depth reads still (by omega)
    have acts := actBlock_logs still ruled (reads.meets hb).found holds takes
    have ends : ∀ lines result, 0 ≤ ((w.after [.entered name opcode]).after lines).fuel →
        Logs ((w.after [.entered name opcode]).after lines)
          (if next then goOn (player depth) me (.text id) result else return result) (.ok result) [] :=
      fun lines result left => .still left (by
        cases next with
        | false => rfl
        | true => exact goOn_last (player depth) result ((reads.after lines).meets hb).found last)
    have acted := Logs.bind_ok (f := fun result =>
      if next then goOn (player depth) me (.text id) result else return result) acts (ends _ _)
    rw [List.append_nil] at acted
    exact acted

theorem Inputs.logs : ∀ (inputs : Inputs), inputs.Formula t → ∀ raw, inputs.Written raw →
    ∀ (args : Arguments) (w : World) (depth : Nat), w.Reads me name t → 0 ≤ w.fuel →
    w.fuel.toNat < depth →
    Logs w ((Arguments.ofInputs me raw args).perform (player depth)) (inputs.values (w.sight me) args)
      (inputs.trace (w.sight me) name)
  | .nil, _, _, rfl, args, w, _, _, awake, _ => .still awake rfl
  | .cons key operand rest, ⟨first, later⟩, _, ⟨v, more, rfl, read, written⟩, args, w, depth, reads,
      awake, deep => by
    have gives : Logs w ((Arguments.ofInput me operand.input).perform (player depth))
        ((operand.value (w.sight me)).map some) (operand.trace (w.sight me) name) := by
      cases operand with
      | literal v | slot r | empty => exact .still awake rfl
      | «variable» id =>
        refine .still awake ?_
        simp only [Operand.input, Arguments.ofInput, Act.perform_bind, Act.perform_look,
          Act.perform_lift, Act.perform_pure]
        rw [play_get_bind]
        show _ = (((w.variableValue? me id).map some).mapError fun (f : Fault) => Stop.fault f, w)
        cases w.variableValue? me id <;> rfl
      | reporter r =>
        simp only [Operand.input, Arguments.ofInput, Act.perform_bind, Act.perform_run, Act.perform_pure]
        exact (Reporter.logs r first w depth true reads awake deep).bind_lift fun v => .ok (some v)
    rw [Arguments.ofInputs, read, Act.lift_ok_bind, Act.perform_bind, Inputs.values, Inputs.trace]
    cases value : operand.value (w.sight me) with
    | error f =>
      rw [value] at gives
      simp only [List.append_nil]
      exact gives.bind_error
    | ok v =>
      rw [value] at gives
      refine gives.bind_ok fun still => ?_
      have lower : (w.after (operand.trace (w.sight me) name)).fuel.toNat < depth := by
        have left : (w.after (operand.trace (w.sight me) name)).fuel =
          w.fuel - entries (operand.trace (w.sight me) name) := rfl
        omega
      exact Inputs.logs rest later more written _ _ depth (reads.after _) still lower

end

/-- Without fuel, a formula is killed as its root is entered. -/
theorem Reporter.killed_at_once {w : World} {r : Reporter} (held : r.Formula t) (depth : Nat)
    (next : Bool) (reads : w.Reads me name t) (dry : w.fuel < 0) :
    ((player (depth + 1)).run me (.text r.id) next).play w =
      (.error (.killed .fuel), w.enter name r.opcode) := by
  obtain ⟨id, opcode, inputs⟩ := r
  obtain ⟨-, ⟨b, raw, hb, hop, -⟩, -⟩ := held
  have entered : (enterBlock name opcode).play w = (.error (.killed .fuel), w.enter name opcode) := by
    rw [enterBlock_play, if_pos (by omega)]
  exact (runWith_play (player depth) next (reads.meets hb) hop).trans (play_bind_error entered _)

/-- Running a formula gives its value: the operands are taken from the first to the last, each block being
entered once, and only the log and the fuel change. A formula with more blocks to enter than there is fuel is
killed. -/
theorem runBlock_formula {w : World} {me : Nat} {name : String} {t : Table Block} {r : Reporter}
    (next : Bool) (reads : w.Reads me name t) (held : r.Formula t) :
    let lines := r.trace (w.sight me) name
    let out := (runBlock me (.text r.id) next).play w
    (entries lines ≤ w.fuel →
      out = (.ok (r.value (w.sight me)),
        { w with log := w.log ++ lines.toArray, fuel := w.fuel - entries lines })) ∧
    (w.fuel < entries lines → out.1 = .error (.killed .fuel)) ∧
    out.2 = { w with log := out.2.log, fuel := out.2.fuel } := by
  have runs : (runBlock me (.text r.id) next).play w =
      ((player (2 * w.fuel.toNat + 3 + 1)).run me (.text r.id) next).play w :=
    runBlock_play me (.text r.id) next w
  by_cases awake : 0 ≤ w.fuel
  · have logs := Reporter.logs r held w (2 * w.fuel.toNat + 3 + 1) next reads awake (by omega)
    refine ⟨fun enough => runs.trans (logs.lasts enough), fun dry => ?_, ?_⟩
    · obtain ⟨log, killed⟩ := logs.killed dry
      rw [runs, killed]
    · by_cases enough : entries (r.trace (w.sight me) name) ≤ w.fuel
      · rw [runs, logs.lasts enough]
        rfl
      · obtain ⟨log, killed⟩ := logs.killed (by omega)
        rw [runs, killed]
  · have killed := r.killed_at_once held (2 * w.fuel.toNat + 3) next reads (by omega)
    have out := runs.trans killed
    refine ⟨fun enough => absurd enough (by omega), fun _ => ?_, ?_⟩ <;> rw [out]
    rfl

/-! ## A formula, and two that fail -/

def abLength : Reporter := .node "l" "operator_length" (.cons "STRING" (.literal (.text "ab")) .nil)

def marked : Reporter := .node "k" "operator_join"
  (.cons "STRING1" (.variable (.text "v")) (.cons "STRING2" (.literal (.text "!")) .nil))

def labelled : Reporter := .node "j" "operator_join"
  (.cons "STRING1" (.reporter abLength) (.cons "STRING2" (.reporter marked) .nil))

def labelledBlocks : Table Block := [
  ("j", .plain "operator_join" [("STRING1", .list [Value.int 1, .text "l"]),
    ("STRING2", .list [Value.int 3, .text "k", .list [Value.int 10, .text ""]])]),
  ("l", .plain "operator_length" [("STRING", .literal "ab")]),
  ("k", .plain "operator_join" [
    ("STRING1", .list [Value.int 3, .list [Value.int 12, .text "v", .text "v"],
      .list [Value.int 10, .text ""]]),
    ("STRING2", .literal "!")])]

/-- A sprite with these blocks, and a stage with the variable. -/
def labelledStage : World :=
  let w := World.ofBlocks labelledBlocks
  { w with
    kits := w.kits ++ [⟨[], [("v", .text "x")], []⟩]
    sprites := w.sprites ++ [{ fields := [("variables", .shared)], kit := 1 }]
    stage := some 1 }

theorem runBlock_formula_labelled :
    (labelledStage.Reads 0 "Cat" labelledBlocks ∧ labelled.Formula labelledBlocks) ∧
    ((runBlock 0 (.text "j")).play labelledStage).1 = .ok (.text "2x!") := by
  have reads : labelledStage.Reads 0 "Cat" labelledBlocks := ⟨rfl, rfl, rfl⟩
  have length : abLength.Formula labelledBlocks :=
    ⟨rfl, ⟨_, _, rfl, rfl, rfl, ⟨rfl, [], rfl, rfl⟩, _, _, rfl, (Operand.WrittenAs.literal _ _ _).read,
      rfl⟩, trivial, trivial⟩
  have mark : marked.Formula labelledBlocks :=
    ⟨rfl, ⟨_, _, rfl, rfl, rfl, ⟨rfl, [], rfl, rfl⟩, _, _, rfl, (Operand.WrittenAs.variable _ _ _ _).read,
      _, _, rfl, (Operand.WrittenAs.literal _ _ _).read, rfl⟩, trivial, trivial, trivial⟩
  have held : labelled.Formula labelledBlocks :=
    ⟨rfl, ⟨_, _, rfl, rfl, rfl, ⟨rfl, [], rfl, rfl⟩,
      _, _, rfl, (Operand.WrittenAs.reporter abLength _).read,
      _, _, rfl, (Operand.WrittenAs.covering marked _ (by decide)).read, rfl⟩, length, mark, trivial⟩
  have runs := (runBlock_formula true reads held).1 (by decide)
  exact ⟨⟨reads, held⟩, congrArg Prod.fst runs⟩

/-- A sprite with an attribute that is called like an operator. -/
def hiddenLength : World :=
  (World.ofBlocks [("l", .plain "operator_length" [("STRING", .literal "ab")])]).updateSprite 0
    (·.put "operator_length" (.text ""))

/-- A formula whose first operand is a variable, in a project without a stage. -/
def unstaged : World := .ofBlocks [
  ("j", .plain "operator_join" [
    ("STRING1", .list [Value.int 3, .list [Value.int 12, .text "v", .text "v"],
      .list [Value.int 10, .text ""]]),
    ("STRING2", .list [Value.int 1, .text "l"])]),
  ("l", .plain "operator_length" [("STRING", .literal "ab")])]

/-- Both formulas answer nothing, although the rule of the first operator gives a value and the second
operand of the other one does; that operand is not even entered. -/
theorem hiddenLength_and_unstaged_answer_null :
    (((runBlock 0 (.text "l")).play hiddenLength).1 = .ok .null ∧
      (ruleOf? "operator_length").map (· [("STRING", .text "ab")]) = some (.ok (.text "2"))) ∧
    ((runBlock 0 (.text "j")).play unstaged).1 = .ok .null ∧
      ((runBlock 0 (.text "j")).play unstaged).2.log.toList = [
        .entered "Cat" "operator_join", .blockFailed "j" .undefinedName] :=
  ⟨⟨rfl, rfl⟩, rfl, rfl⟩

end BlockStage
