import BlockStage.Stage.Frame
import BlockStage.Stage.Load

/-!
# Sessions

A session plays a project and looks at it from outside between two rounds of the program. Every answer
is closed by running the scripts that wait.
-/

namespace BlockStage

/-- A round, or the user interrupts the program. -/
inductive Turn where
  | interrupt
  | round (moment : Moment)

/-- What is asked about a sprite. -/
inductive Query where
  | run (flag : Value) (next : Bool)
  | thread (flag : Value)
  | arguments (flag : Value)
  | invoke (name args : Value)
  | getVariable (id : Value)
  | setVariable (id value : Value)
  | getList (id : Value)
  | describe

/-- What is done between two rounds. -/
inductive Step where
  | ask (sprite : Value) (q : Query)
  | monitorNames (texts : Bool)
  | monitorPlaces
  | mouse (place : Option (Number × Number)) (buttons : Option (List Value))
  | advance (ms : Int)
  | turn (t : Turn)

/-- What a step answers. -/
inductive Reply where
  | nothing
  | value (v : Value)
  | stopped (why : Stop)
  /-- The program has ended, so there is no further round. -/
  | ended

/-- A reply, with the log and the record since the last one. -/
structure Answer where
  reply : Reply
  log : Array LogLine
  calls : Array Call
  world : World

namespace Session

/-- How many scripts are run between two steps. -/
def patience : Nat := 100000

/-- Runs the scripts that wait, and hands the log out. -/
def close (reply : Reply) (w : World) : Answer × World :=
  let w := drain patience w
  (⟨reply, w.log, w.calls, w⟩, { w with log := #[], calls := #[] })

/-! ## Steps -/

def invoke (me : Nat) (name : String) (args : List Value) : Run Value := do
  let result ← (player (← get).depth).invoke me name args
  match result with
  | .object "Sprite" _ i => do
    let _ ← ((← get).sprite i).name?
    return result
  | result => return result

/-- `Monitor.name`, or `Monitor.__str__`. -/
def monitorName (texts : Bool) (m : Monitor) : Except Fault Value := do
  let name ← m.name?
  match texts, name with
  | true, .text s => return .text s
  | true, _ => throw .wrongKind
  | false, v => return v

def monitorPlace (w : World) (m : Monitor) : Except Fault Value := do
  let (x, y) ← Place.onScreen (Value.int m.place.1) (Value.int m.place.2)
  let owner ← (w.sprite m.sprite).title?
  return .list [Value.int x, Value.int y, Place.ofPair m.place, .text owner]

/-- The answer to a query about a sprite. -/
def answerQuery (me : Nat) : Query → Run Reply
  | .run flag next => return .value (← runBlock me flag next)
  | .thread flag => do
    modify fun w => w.start me flag
    return .nothing
  | .arguments flag => do
    let args ← runAct (Arguments.eval me flag)
    return .value (.list (args.map fun (k, v) => .list [.text k, v]))
  | .invoke name args =>
    match name with
    | .text name => do return .value (← invoke me name (← args.elements?))
    | _ => throw (.fault (.error .wrongKind))
  | .getVariable id => return .value (← (← get).variableValue? me id)
  | .setVariable id value => do
    runAct (Data.assign me id value)
    return .value .null
  | .getList id => do
    let (_, found) ← (← get).list? me id
    return .value found
  | .describe => do
    let name := Value.text (← ((← get).sprite me).title?)
    return .value (.list [name, name])

/-- An entry of `sprite_list + clone_list`. -/
def spriteAt (w : World) (position : Value) : Except Fault Nat :=
  match position.whole? with
  | none => .error .wrongKind
  | some i =>
    match (Value.position? w.players.length i).bind (w.players[·]?) with
    | some n => .ok n
    | none => .error .outOfRange

/-- What a step does. -/
def perform : Step → Run Reply
  | .ask sprite q => do answerQuery (← spriteAt (← get) sprite) q
  | .monitorNames texts => do
    return .value (.list (← (← get).monitors.mapM fun m => monitorName texts m))
  | .monitorPlaces => do
    let w ← get
    return .value (.list (← w.monitors.mapM fun m => monitorPlace w m))
  | .mouse place buttons => do
    modify fun w =>
      { w with host :=
          { w.host with
            mouse := place.getD w.host.mouse
            buttons := buttons.getD w.host.buttons } }
    return .nothing
  | .advance ms => do
    modify fun w => { w with host := w.host.advance ms }
    return .nothing
  | .turn _ => return .ended

/-- A step, with limits of its own. -/
def answerStep (step : Step) (w : World) : Reply × World :=
  match (perform step).run.run (w.refuel 0) with
  | (.ok reply, w) => (reply, w)
  | (.error why, w) => (.stopped why, w)

/-! ## Rounds -/

/-- Plays a turn. The answer tells whether the program goes on. -/
def playTurn (t : Turn) (w : World) : Bool × World :=
  match t with
  | .interrupt => (false, Stage.finish { w with log := w.log.push .interrupted })
  | .round moment =>
    match (Stage.round moment).run.run (w.refuel 0) with
    | (.ok _, w) => if w.done then (false, Stage.finish w) else (true, w)
    | (.error (.fault e), w) => (false, Stage.finish { w with log := w.log.push (.loopFailed e) })
    | (.error _, w) => (false, Stage.finish w)

/-- The answers to the steps after the end. -/
def afterEnd : List Step → World → List Answer
  | [], _ => []
  | step :: rest, w =>
    let (reply, w) := answerStep step w
    let (answer, w) := close reply w
    answer :: afterEnd rest w

/-- The answers to the steps while the program runs. In the end the window is closed. -/
def whileRunning : List Step → World → List Answer
  | [], w =>
    let (_, w) := playTurn (.round Moment.quit) w
    [(close .nothing w).1]
  | .turn t :: rest, w =>
    let (goesOn, w) := playTurn t w
    let (answer, w) := close .nothing w
    answer :: if goesOn then whileRunning rest w else afterEnd rest w
  | step :: rest, w =>
    let (reply, w) := answerStep step w
    let (answer, w) := close reply w
    answer :: whileRunning rest w

/-- Plays a project. One that cannot be loaded gives the fault. -/
def play (host : Host) (archive : Archive) (steps : List Step) :
    Except (Fault × World) (List Answer) :=
  match (Load.project archive).run.run (World.empty host) with
  | (.error (.fault e), w) => .error (e.fault, w)
  | (_, w) =>
    let (answer, w) := close .nothing w
    .ok (answer :: whileRunning steps w)

end Session

end BlockStage
