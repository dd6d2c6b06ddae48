import BlockStage.Script.Member

/-!
# Running scripts

A script is run from a block on: the block is entered, it acts, and then the blocks that come next are
entered one after another. A block that meets a fault is given up and logged, and the script goes on.

Every block that is entered takes one from the fuel, so the scripts that blocks run never nest deeper
than there is fuel, and `player` recurses on that depth.
-/

namespace BlockStage

/-- Logs that a block is entered, and takes its fuel. -/
def enterBlock (sprite opcode : String) : Run Unit := do
  Run.log (.entered sprite opcode)
  modify fun w => { w with fuel := w.fuel - 1 }
  if (← get).fuel < 0 then throw (.killed .fuel)

/-- Gives a block up that fails, and logs why. -/
def contain (flag : Value) (block : Run Value) : Run Value := do
  try block
  catch
    | .fault (.error f) =>
      Run.log (.blockFailed flag.asText f)
      return .null
    | other => throw other

/-- Calls the method of a block. An opcode that nobody knows is a fault of the block. -/
def actBlock (p : Player) (me : Nat) (flag : Value) (opcode : String) : Run Value := do
  match Member.ofName? ((← get).sprite me) opcode with
  | some member => contain flag ((member.invoke me [flag]).perform p)
  | none =>
    Run.log (.opcodeMissing opcode)
    contain flag (throw (.fault (.error .unsetLocal)))

/-- Enters the blocks that come next. The answer tells whether the end of the script was reached; it is not if
the clone was deleted. `n` bounds the blocks: a longer walk comes round in a circle without entering any. -/
def walk (enter : Value → Run Value) (me : Nat) : Nat → Value → Run Bool
  | 0, flag => if flag.isNull then return true else throw .endless
  | n + 1, flag => do
    if flag.isNull then return true
    if ← ((← get).sprite me).hasMode? .deleted then return false
    let _ ← enter flag
    let block ← (← get).block? me flag
    walk enter me n block.next

/-- Calls a member of a sprite. -/
def invoke (p : Player) (me : Nat) (name : String) (args : List Value) : Run Value := do
  match Member.ofName? ((← get).sprite me) name with
  | some member => (member.invoke me args).perform p
  | none => throw (.fault (.error .missingMember))

/-- `runcode` on block `flag` of sprite `me`, with the blocks after it if `next`. -/
def runWith (p : Player) (me : Nat) (flag : Value) (next : Bool) : Run Value := do
  let w ← get
  if w.done || flag.isNull then return .null
  let name ← (← (w.sprite me).name?).display?
  let block ← w.block? me flag
  let opcode ← block.opcode?
  enterBlock name (← opcode.display?)
  match opcode with
  | .text opcode =>
    let result ← actBlock p me flag opcode
    if next then
      let w ← get
      let size := w.fuel.toNat + (w.blocks me).length + 2
      let following := (← w.block? me flag).next
      let reachedEnd ← walk (fun f => p.run me f false) me size following
      return if reachedEnd then result else .null
    else return result
  | _ => throw (.fault (.error .wrongKind))

/-- Runs scripts within one another to a depth. A script that would be run below stops at once. -/
def stacked (bottom : Stop) : Nat → Player
  | 0 => ⟨fun _ _ _ => throw bottom, fun _ _ _ => throw bottom⟩
  | depth + 1 => ⟨runWith (stacked bottom depth), invoke (stacked bottom depth)⟩

/-- Runs scripts on a stack without a limit: their fuel ends before `depth` does. -/
def player : Nat → Player := stacked .endless

/-- Runs scripts on a stack with a limit. A block is given up whose script would pass it. -/
def limited : Nat → Player := stacked (.fault (.error .tooDeep))

/-- How deep scripts can nest on the fuel that is left. -/
def World.depth (w : World) : Nat := 2 * w.fuel.toNat + 4

/-- `runcode` -/
def runBlock (me : Nat) (flag : Value) (next : Bool := true) : Run Value := do
  (player (← get).depth).run me flag next

/-- Carries an act out with the fuel that is left. -/
def runAct {α : Type} (act : Act α) : Run α := do
  act.perform (player (← get).depth)

/-! ## Threads -/

/-- A script begins with the limits of the host. -/
def World.refuel (w : World) (thread : Nat) : World :=
  { w with ticks := w.host.ticks, fuel := w.host.fuel, current := thread }

/-- Runs a script that waits. -/
def runThread (t : Thread) (w : World) : World :=
  let (result, w) := (runBlock t.sprite t.flag).run.run (w.refuel t.id)
  let note (call : Call) : World := { w with calls := w.calls.push call, current := 0 }
  match result with
  | .ok _ => { w with current := 0 }
  | .error (.killed why) => note (.killed why)
  | .error (.fault f) => note (.died f)
  | .error .endless => { w with current := 0 }

/-- Runs the scripts that wait, and those that they start, at most `n`. -/
def drain : Nat → World → World
  | 0, w => w
  | n + 1, w =>
    match w.queue with
    | [] => w
    | t :: rest => drain n (runThread t { w with queue := rest })

end BlockStage
