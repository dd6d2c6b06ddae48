import BlockStage.Proofs.Run.Step

/-!
# Structured scripts

A script as it is seen on the screen: blocks one below the other, loops and conditions that hold scripts of
their own, and reporters in the inputs. Here is what such a script does, by recursion on its structure, and
how it is written down as a table of blocks that refer to one another by ids.

A loop takes the number of rounds once. A condition runs its reporter once. Any other block does what its
opcode says, and can run nothing but its reporters. A fault gives up the innermost block around it.
-/

namespace BlockStage

/-! ## Syntax -/

mutual

/-- A block that answers, with its inputs. -/
inductive Reporter where
  | node (id opcode : String) (inputs : Inputs)

/-- The inputs of a block in order, each with its name. -/
inductive Inputs where
  | nil
  | cons (name : String) (operand : Operand) (rest : Inputs)

/-- What stands in an input. -/
inductive Operand where
  | literal (v : Value)
  | variable (id : Value)
  /-- A reporter that is run when the inputs are taken. -/
  | reporter (r : Reporter)
  /-- A reporter in a slot, whose id is handed over. -/
  | slot (r : Reporter)
  /-- A slot with nothing in it. -/
  | empty

end

/-- One block of a script, with what it holds. -/
inductive Statement where
  | leaf (id opcode : String) (inputs : Inputs)
  | repeatTimes (id : String) (times : Operand) (body : List Statement)
  | ifThen (id : String) (condition : Reporter) (body : List Statement)

def Reporter.id : Reporter → String
  | .node id _ _ => id

def Reporter.opcode : Reporter → String
  | .node _ opcode _ => opcode

namespace Statement

def id : Statement → String
  | leaf id _ _ | repeatTimes id _ _ | ifThen id _ _ => id

def opcode : Statement → String
  | leaf _ opcode _ => opcode
  | repeatTimes _ _ _ => "control_repeat"
  | ifThen _ _ _ => "control_if"

end Statement

/-! ## Meaning -/

section

variable (me : Nat) (name : String)

mutual

/-- What a reporter answers once it is entered. -/
def Reporter.act : Reporter → Run Value
  | .node id opcode inputs => actBlock ⟨fun _ flag _ => inputs.run flag, fun _ _ _ => throw .endless⟩
      me (.text id) opcode

/-- Runs the reporter with an id among some inputs. Nothing else can be run. -/
def Inputs.run : Inputs → Value → Run Value
  | .nil, flag => if flag.isNull then return .null else throw .endless
  | .cons _ operand rest, flag => operand.runOr flag (rest.run flag)

/-- Runs the reporter in an input if it has this id, and goes on with another run otherwise. -/
def Operand.runOr : Operand → Value → Run Value → Run Value
  | .reporter r, flag, other | .slot r, flag, other =>
    if flag.isText r.id then do
      enterBlock name r.opcode
      r.act
    else other
  | _, _, other => other

end

/-- The reporters among some inputs, as all that can be run. -/
def Inputs.player (inputs : Inputs) : Player :=
  ⟨fun _ flag _ => inputs.run me name flag, fun _ _ _ => throw .endless⟩

def Reporter.eval (r : Reporter) : Run Value := do
  enterBlock name r.opcode
  r.act me name

def Operand.eval : Operand → Run Value
  | .literal v => return v
  | .variable id => do (← get).variableValue? me id
  | .reporter r => r.eval me name
  | .slot r => return .text r.id
  | .empty => return .null

def iterate (body : Run Unit) : Nat → Run Unit
  | 0 => return ()
  | n + 1 => do
    body
    iterate body n

mutual

/-- What a block of a script does once it is entered. -/
def Statement.act : Statement → Run Value
  | .leaf id opcode inputs => actBlock (inputs.player me name) me (.text id) opcode
  | .repeatTimes id times body => contain (.text id) do
    let n ← times.eval me name
    iterate (execAll body) n.asInt.toNat
    return .null
  | .ifThen id condition body => contain (.text id) do
    let answer ← condition.eval me name
    if answer.isText "True" then execAll body
    return .null

/-- Runs the blocks of a script one after the other. -/
def execAll : List Statement → Run Unit
  | [] => return ()
  | s :: rest => do
    enterBlock name s.opcode
    let _ ← s.act
    execAll rest

end

/-- Runs a script; the answer is that of its first block. -/
def exec : List Statement → Run Value
  | [] => return .null
  | s :: rest => do
    enterBlock name s.opcode
    let result ← s.act me name
    execAll me name rest
    return result

end

/-! ## Scripts as tables of blocks -/

/-- How an input is read that holds an operand. -/
def Operand.input : Operand → Input
  | .literal v => .constant v
  | .variable id => .variable id
  | .reporter r => .reporter (.text r.id)
  | .slot r => .branch (.text r.id)
  | .empty => .branch .null

namespace Inputs

def Written : Inputs → List (String × Value) → Prop
  | nil, raw => raw = []
  | cons name operand rest, raw =>
    ∃ v more, raw = (name, v) :: more ∧ Input.ofValue? v = .ok operand.input ∧ rest.Written more

/-- The inputs are slots, and so run nothing when they are taken. -/
def AreSlots : Inputs → Prop
  | nil => True
  | cons _ (.slot _) rest | cons _ .empty rest => rest.AreSlots
  | cons _ _ _ => False

end Inputs

/-- The opcodes that act on scripts beyond their own inputs. -/
def farReaching : List String :=
  ["control_stop", "control_delete_this_clone", "control_create_clone_of", "control_start_as_clone",
    "control_wait_until", "procedures_call"]

/-- The opcodes that run what was handed over to them. -/
def branching : List String := ["control_if", "control_if_else"]

/-- A block that is neither a loop nor a condition around other blocks. A condition without a script
inside counts as one, but then holds slots only. -/
structure Block.IsLeaf (b : Block) (opcode : String) (inputs : Inputs) : Prop where
  named : b.opcode? = .ok (.text opcode)
  near : opcode ∉ farReaching
  plain : opcode.toList.take 2 ≠ ['_', '_']
  written : ∃ raw, b.get? "inputs" = .ok (.record raw) ∧ inputs.Written raw ∧
    "SUBSTACK" ∉ raw.map Prod.fst
  slots : opcode ∈ branching → inputs.AreSlots ∧ b.get? "fields" = .ok (.record [])

/-- A block that repeats the script at `first` as often as the input `times` says. -/
def Block.Loops (b : Block) (times first : Value) : Prop :=
  ∃ inputs, b.Holds inputs [] ∧
    inputs.Perm [("TIMES", times), ("SUBSTACK", .list [Value.int 2, first])]

section

variable (t : Table Block)

mutual

def Reporter.In : Reporter → Prop
  | .node id opcode inputs =>
    (∃ b, Table.get? t id = some b ∧ b.IsLeaf opcode inputs ∧ b.next = .null) ∧ inputs.In

def Inputs.In : Inputs → Prop
  | .nil => True
  | .cons _ operand rest => operand.In ∧ rest.In

def Operand.In : Operand → Prop
  | .reporter r | .slot r => r.In
  | _ => True

end

mutual

/-- A table holds a block of a script, with what comes next. -/
def Statement.In : Statement → Value → Prop
  | .leaf id opcode inputs, next =>
    (∃ b, Table.get? t id = some b ∧ b.IsLeaf opcode inputs ∧ b.next = next) ∧ inputs.In t
  | .repeatTimes id times body, next =>
    ∃ b v first, Table.get? t id = some b ∧ b.opcode? = .ok (.text "control_repeat") ∧
      b.next = next ∧ b.Loops v first ∧ Input.ofValue? v = .ok times.input ∧ times.In t ∧
      ScriptIn body first
  | .ifThen id condition body, next =>
    ∃ b first, Table.get? t id = some b ∧ b.opcode? = .ok (.text "control_if") ∧ b.next = next ∧
      b.Gives [("CONDITION", .text condition.id), ("SUBSTACK", first)] [] ∧ condition.In t ∧
      ScriptIn body first

/-- A table holds the blocks of a script, and the first one is found under this flag. -/
def ScriptIn : List Statement → Value → Prop
  | [], flag => flag = .null
  | s :: rest, flag => flag = .text s.id ∧ ∃ next, s.In next ∧ ScriptIn rest next

end

end

end BlockStage
