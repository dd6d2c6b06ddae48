import BlockStage.Text.Upper
import BlockStage.Value.Coercion

/-!
# Blocks

A block is a record of the project file. An input is tagged: one for a constant or a reporter, two for
a branch that the block runs itself, three for a reporter or a variable that covers a constant. A part
that does not have its shape is a fault when it is used.
-/

namespace BlockStage

/-- An entry of `inputs` as `S_eval` tells them apart. -/
inductive Input where
  | reporter (flag : Value)
  | constant (v : Value)
  | branch (v : Value)
  | variable (id : Value)
  | unknown (tag : Value)

namespace Input

/-- Reads an input by its tag. -/
def ofValue? (v : Value) : Except Fault Input := do
  let tag ← v.at? 0
  if tag.same (Value.int 1) then
    match ← v.at? 1 with
    | .text id => return .reporter (.text id)
    | inner => return .constant (← inner.at? 1)
  else if tag.same (Value.int 2) then return .branch (← v.at? 1)
  else if tag.same (Value.int 3) then
    let inner ← v.at? 1
    match ← inner.at? 0 with
    | .text _ => return .reporter inner
    | _ => return .variable (← inner.at? 2)
  else return .unknown tag

/-- The name under which a block finds an input. Branches keep the name they have. -/
def key (input : Input) (name : String) : String :=
  match input with
  | .branch _ => name
  | _ => Text.upper name

end Input

/-- An entry of `blocks`: its `opcode`, `next`, `inputs` and `fields`. -/
structure Block where
  fields : Table Value
  deriving Inhabited

namespace Block

def ofValue : Value → Block
  | .record fields => ⟨fields⟩
  | _ => ⟨[]⟩

def get? (b : Block) (key : String) : Except Fault Value := (Value.record b.fields).field? key

def opcode? (b : Block) : Except Fault Value := b.get? "opcode"

/-- `block.get("next")`; a block without one ends its script. -/
def next (b : Block) : Value := (Table.get? b.fields "next").getD .null

def hasOpcode (b : Block) (name : String) : Bool :=
  match Table.get? b.fields "opcode" with
  | some v => v.isText name
  | none => false

/-- A part with named entries. A list fails only once its names are needed. -/
def part? (b : Block) (key : String) : Except Fault Value := do
  match ← b.get? key with
  | .record fields => return .record fields
  | .list items => return .list items
  | _ => throw .missingMember

/-- The value of a field: the id where it names a variable, and the name otherwise. -/
def fieldValue? (name : String) (v : Value) : Except Fault Value :=
  v.at? (if name = "VARIABLE" then 1 else 0)

/-- The block that an input leads to, without running it. -/
def branch? (b : Block) (name : String) : Except Fault Value := do
  let inputs ← b.get? "inputs"
  let input ← inputs.field? name
  input.at? 1

end Block

end BlockStage
