import BlockStage.Script.Act

/-!
# The arguments of a block

Before a block acts it takes its fields, and then its inputs one after another. An input whose tag is
not known is logged and left out.
-/

namespace BlockStage

/-- What `S_eval` answers. -/
abbrev Arguments := Table Value

namespace Arguments

/-- An argument that has to be there. -/
def need (args : Arguments) (key : String) : Except Fault Value :=
  match Table.get? args key with
  | some v => .ok v
  | none => .error .missingKey

/-- An argument, or `False` without it. -/
def orFalse (args : Arguments) (key : String) : Value := (Table.get? args key).getD (.bool false)

/-- The fields of a block. -/
def ofFields : List (String × Value) → Arguments → Except Fault Arguments
  | [], args => .ok args
  | (name, v) :: rest, args => do
    let value ← Block.fieldValue? name v
    ofFields rest (Table.put args (Text.upper name) value)

/-- Runs a reporter, looks a variable up, or hands a branch over. -/
def ofInput (me : Nat) : Input → Act (Option Value)
  | .reporter flag => return some (← Act.run me flag)
  | .constant v => return some v
  | .branch v => return some v
  | .variable id => return some (← (← Act.look).variableValue? me id)
  | .unknown tag => do
    Act.log (.tagUnknown (← tag.display?))
    return none

/-- The inputs of a block. -/
def ofInputs (me : Nat) : List (String × Value) → Arguments → Act Arguments
  | [], args => return args
  | (name, v) :: rest, args => do
    let input ← Input.ofValue? v
    match ← ofInput me input with
    | some value => ofInputs me rest (Table.put args (input.key name) value)
    | none => ofInputs me rest args

/-- `S_eval` -/
def eval (me : Nat) (flag : Value) : Act Arguments := do
  if flag.isNull then return []
  let block ← (← Act.look).block? me flag
  let inputs ← block.part? "inputs"
  let fields ← block.part? "fields"
  let args ← ofFields (← fields.fields?) []
  ofInputs me (← inputs.fields?) args

end Arguments

end BlockStage
