import BlockStage.Script.Arguments

/-!
# Control blocks

A condition holds if its block returns the text `True`.

A loop without an end is bounded by what its script has left: every round of `forever` takes a tick,
and waiting for a condition enters a block each time. A wait that enters none can never end.
-/

namespace BlockStage

/-- The `control_` methods. -/
inductive Control where
  | ifThen
  | ifThenElse
  | waitUntil
  | repeatTimes
  | forever
  | wait
  | stop
  | createClone
  | createCloneMenu
  | startAsClone
  | deleteClone
  deriving DecidableEq, Repr

namespace Control

/-- The block of an opcode. -/
def ofName? : String → Option Control
  | "control_if" => some ifThen
  | "control_if_else" => some ifThenElse
  | "control_wait_until" => some waitUntil
  | "control_repeat" => some repeatTimes
  | "control_forever" => some forever
  | "control_wait" => some wait
  | "control_stop" => some stop
  | "control_create_clone_of" => some createClone
  | "control_create_clone_of_menu" => some createCloneMenu
  | "control_start_as_clone" => some startAsClone
  | "control_delete_this_clone" => some deleteClone
  | _ => none

/-- Whether the `clone_mode` is 2. -/
def isDeleted (me : Nat) : Act Bool := do
  ((← Act.look).sprite me).hasMode? .deleted

/-- Runs the `SUBSTACK` of a block. -/
def branch (me : Nat) (flag : Value) : Act Unit := do
  let _ ← Act.run me flag

/-- Runs a branch a number of times, until the clone is deleted (`control_repeat`). -/
def rounds (me : Nat) (body : Value) : Nat → Act Unit
  | 0 => return ()
  | n + 1 => do
    if ← isDeleted me then return ()
    branch me body
    rounds me body n

/-- Runs a branch until the clone is deleted (`control_forever`). `n` bounds the rounds. -/
def endlessRounds (me : Nat) (flag : Value) : Nat → Act Unit
  | 0 => .endless
  | n + 1 => do
    if ← isDeleted me then return ()
    branch me (← (← (← Act.look).block? me flag).branch? "SUBSTACK")
    Act.tick
    endlessRounds me flag n

/-- Runs a condition until it holds (`control_wait_until`). -/
def tests (me : Nat) (condition : Value) : Nat → Act Unit
  | 0 => .endless
  | n + 1 => do
    if (← Act.run me condition).isText "True" then return ()
    tests me condition n

/-- Starts the scripts of a clone. They are called by its name. -/
def startScripts (clone : Nat) : List (String × Block) → Act Unit
  | [] => return ()
  | (flag, b) :: rest => do
    if (← b.opcode?).isText "control_start_as_clone" then
      let _ ← ((← Act.look).sprite clone).title?
      .ask (.start clone (.text flag)) .ret
    startScripts clone rest

/-- What a control block does. -/
def act (me : Nat) (flag : Value) : Control → Act Value
  | ifThen => do
    let args ← Arguments.eval me flag
    let condition ← Act.run me (← args.need "CONDITION")
    if condition.isText "True" then branch me (← args.need "SUBSTACK")
    return .null
  | ifThenElse => do
    let args ← Arguments.eval me flag
    if (← args.need "CONDITION").isText "True" then branch me (← args.need "SUBSTACK")
    else branch me (← args.need "SUBSTACK2")
    return .null
  | waitUntil => do
    let args ← Arguments.eval me flag
    let condition ← args.need "CONDITION"
    tests me condition ((← Act.look).fuel.toNat + 2)
    return .null
  | repeatTimes => do
    let args ← Arguments.eval me flag
    let body ← (← (← Act.look).block? me flag).branch? "SUBSTACK"
    if body.isNull then return .null
    rounds me body (← args.need "TIMES").asInt.toNat
    return .null
  | forever => do
    endlessRounds me flag ((← Act.look).ticks.toNat + 1)
    return .null
  | wait => do
    let args ← Arguments.eval me flag
    Act.sleep (← (← args.need "DURATION").toFloat?)
    return .null
  | stop => do
    Act.stop
    return .null
  | createClone => do
    let _ ← Arguments.eval me flag
    ((← Act.look).sprite me).can? "copy"
    let clone ← .ask (.addClone me) .ret
    startScripts clone (← (← Act.look).blocks? clone)
    return .null
  | createCloneMenu => do
    let args ← Arguments.eval me flag
    args.need "CLONE_OPTION"
  | startAsClone => do
    let block ← (← Act.look).block? me flag
    branch me (← block.get? "next")
    return .null
  | deleteClone => do
    let _ ← ((← Act.look).sprite me).hasMode? .clone
    .ask (.delete me) .ret
    return .null

end Control

end BlockStage
