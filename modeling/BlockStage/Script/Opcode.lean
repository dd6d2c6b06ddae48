import BlockStage.Script.Control
import BlockStage.Script.Custom
import BlockStage.Script.Looks
import BlockStage.Script.Operator
import BlockStage.Script.Sensing

/-!
# Opcodes

Blocks go by the name that stands in the project file.
-/

namespace BlockStage

/-- The methods of a `Sprite` that are blocks. -/
inductive Opcode where
  | motion (b : Motion)
  | looks (b : Looks)
  | operator (b : Operator)
  | data (b : Data)
  | control (b : Control)
  | sensing (b : Sensing)
  | custom (b : Custom)
  /-- The block on top of a script that the green flag starts. -/
  | flagClicked
  deriving DecidableEq, Repr

namespace Opcode

/-- The block of an opcode. -/
def ofName? (name : String) : Option Opcode :=
  if name = "event_whenflagclicked" || name = "procedure_definition" then some .flagClicked
  else
    ((Motion.ofName? name).map .motion).orElse fun _ =>
    ((Looks.ofName? name).map .looks).orElse fun _ =>
    ((Operator.ofName? name).map .operator).orElse fun _ =>
    ((Data.ofName? name).map .data).orElse fun _ =>
    ((Control.ofName? name).map .control).orElse fun _ =>
    ((Sensing.ofName? name).map .sensing).orElse fun _ =>
    (Custom.ofName? name).map .custom

/-- What a block does. -/
def act (me : Nat) (flag : Value) : Opcode → Act Value
  | motion b => b.act me flag
  | looks b => b.act me flag
  | operator b => b.act me flag
  | data b => b.act me flag
  | control b => b.act me flag
  | sensing b => b.act me flag
  | custom b => b.act me flag
  | flagClicked => do
    Act.log .flagClicked
    return .null

/-- Whether the method can be called without `flag`. -/
def flagOptional : Opcode → Bool
  | motion .ifOnEdgeBounce | motion .xPosition | motion .yPosition | motion .direction => true
  | looks .show | looks .nextCostume | looks .nextBackdrop | looks .size => true
  | sensing .timer | sensing .resetTimer => true
  | _ => false

end Opcode

end BlockStage
