import BlockStage.Expression.Apply
import BlockStage.Script.Data

/-!
# Expressions in scripts

The queries of an evaluation are answered by what blocks can do, so that an evaluation becomes an act.
What it makes is kept in the memory of the world.

A walk that hands out its items while it is run is gone on with by running it up to the next item.
-/

namespace BlockStage.Written

open Expression (Answer Datum Flow Memory Obj Paused Query Ref Turn)

/-! ## Memory -/

/-- An act whose fault is an answer. -/
def attempted {α : Type} (act : Act α) : Act (Except Fault α) :=
  tryCatch (do return .ok (← act)) fun f => return .error f

/-- Changes the memory. -/
def remember (f : Memory → Memory) : Act Unit := .ask (.remember f) .ret

/-- Keeps an object in memory. -/
def make (o : Obj) : Act Nat := do
  let n := (← Act.look).memory.objects.size
  remember fun m => { m with objects := m.objects.push o }
  return n

def makeItem (kind : String) (fields : List (String × Datum)) : Act Datum := do
  let n ← make (.item kind fields)
  return .ref (.item kind) ⟨.made n, []⟩

/-- Keeps what only can be handed on. -/
def keep (d : Datum) : Act Nat := do
  let n := (← Act.look).memory.kept.size
  remember fun m => { m with kept := m.kept.push d }
  return n + 1

/-- Notes how far a walk is. -/
def setPaused (n : Nat) (p : Paused) : Act Unit :=
  remember fun m => { m with paused := m.paused.setIfInBounds n p }

/-- Keeps a walk that has not begun. -/
def spawn (body : Flow) : Act Nat := do
  let n := (← Act.look).memory.paused.size
  remember fun m => { m with paused := m.paused.push (.fresh body) }
  return n

/-! ## Names -/

/-- What a name of the program stands for. -/
def name? (w : World) (s : String) : Option Datum :=
  (w.memory.names.lookup s).getD
    ((w.programName? s).orElse fun _ => Expression.Module.programConstants.lookup s)

def names (w : World) : List String :=
  let program := Expression.Module.programConstants.map Prod.fst ++ w.programNames
  (program ++ w.memory.names.map Prod.fst).eraseDups.filter fun s => (name? w s).isSome

/-- Gives a name of the program a value. -/
def setName (s : String) (given : Option (Datum × Value)) : Act Unit := do
  match s, given with
  | "done", some (_, v) => .ask (.setDone v.holds) .ret
  | s, given => remember (·.withName s (given.map Prod.fst))

/-! ## Sprites -/

/-- A `pygame.Rect` of its own. -/
def rect (r : Rect) : Act Datum :=
  makeItem "Rect" [
    ("x", .int r.x), ("y", .int r.y), ("w", .int r.w), ("h", .int r.h), ("left", .int r.x),
    ("right", .int (r.x + r.w)), ("top", .int r.y), ("bottom", .int (r.y + r.h)),
    ("center", .tuple [.int (r.x + r.w / 2), .int (r.y + r.h / 2)]),
    ("topright", .tuple [.int (r.x + r.w), .int r.y])]

/-- A `Position` of its own. -/
def place (x y : Value) : Act Datum :=
  makeItem "Position" [("x", .ofValue x), ("y", .ofValue y)]

/-- Calls a member of a sprite. -/
def invoked (i : Nat) (name : String) (args : List Value) : Act (Except Fault Value) := do
  return (← .ask (.invoke i name args) .ret).mapError Failure.fault

/-- A member of a sprite. -/
def spriteMember (i : Nat) (name : String) : Act (Except Fault Datum) := do
  let w ← Act.look
  match name, Table.get? (w.sprite i).fields name with
  | "rect", some .shared => attempted do rect (← (w.sprite i).rect?)
  | _, some (.place x y) => return .ok (← place x y)
  | name, some v => return .ok (w.datumAt (.attributes i) [.name name] v)
  | "__dict__", none => return .ok (.ref .record ⟨.attributes i, []⟩)
  | "__class__", none => return .ok (.builtin "Sprite")
  | "__module__", none => return .ok (.text "__main__")
  | "__doc__", none => return .ok .null
  | name, none => return (← invoked i "__getattribute__" [.text name]).map .ofValue

/-- Sets or deletes a member. -/
def setMember (of : Datum) (name : String) (v : Option Value) : Act (Except Fault Unit) := do
  match of, v with
  | .sprite i, some v => unit (← invoked i "__setattr__" [.text name, v])
  | .sprite i, none => unit (← invoked i "__delattr__" [.text name])
  | _, _ => return .error .wrongKind
where
  unit (r : Except Fault Value) : Act (Except Fault Unit) := return r.map fun _ => ()

/-! ## Functions of the program -/

/-- The sprite that a value stands for. -/
def spriteOf? : Value → Except Fault Nat
  | .object "Sprite" _ i => .ok i
  | _ => .error .missingMember

/-- A list of the world. -/
def listAt (holder : World.Holder) (id v : Value) (w : World) : Datum :=
  match holder, id with
  | .kit k, .text s => w.datumAt (.kit k "lists") [.name s] v
  | .own i, .text s => w.datumAt (.attributes i) [.name "lists", .name s] v
  | _, _ => .ofValue v

/-- Calls a function of the program. -/
def use (name : String) (args : List Value) : Act Answer := do
  let w ← Act.look
  match name, args with
  | "getvaluable", [s, id] => return .value (← w.variableValue? (← spriteOf? s) id)
  | "setvaluable", [s, id, v] => do
    Data.assign (← spriteOf? s) id v
    return .value .null
  | "getlist", [s, id] => do
    let (holder, v) ← w.list? (← spriteOf? s) id
    return .datum (listAt holder id v w)
  | "S_eval", [s, flag] => return .value (.record (← Arguments.eval (← spriteOf? s) flag))
  | "runcode", [s, flag] => return .value (← runFrom (← spriteOf? s) flag true)
  | "runcode", [s, flag, next] => return .value (← runFrom (← spriteOf? s) flag next.holds)
  | "threading.current_thread", [] => return .datum (World.threadThing w.current)
  | _, _ => throw .wrongKind
where
  ofReply : Except Failure Value → Act Value
    | .ok v => return v
    | .error e => .fail e
  runFrom (i : Nat) (flag : Value) (next : Bool) : Act Value := do
    ofReply (← .ask (.attempt i flag next) .ret)

/-! ## Answers -/

/-- The answer to a query. -/
def answer : (q : Query) → Act q.Reply
  | .make o => make o
  | .fetch r => do
    let w ← Act.look
    match r with
    | ⟨.names, []⟩ =>
      return some (.record ((names w).filterMap fun s => (name? w s).map fun d => (.text s, d)))
    | r => return w.found? r
  | .store n o => remember fun m => { m with objects := m.objects.setIfInBounds n o }
  | .write r v => do
    let some _ := (← Act.look).write? r v | return .error .wrongKind
    .ask (.write r v) .ret
    return .ok ()
  | .bind i script name v =>
    match script with
    | .thing "Thread" _ n => .ask (.bind i n name v) .ret
    | _ => return ()
  | .rebind i fields => .ask (.rebind i (World.bindingsOf fields)) .ret
  | .keep d => keep d
  | .kept n => do return (← Act.look).memory.kept[n - 1]?
  | .name s => do return name? (← Act.look) s
  | .setName s given => setName s given
  | .print s => .ask (.print s) .ret
  | .log s => Act.log (.note s)
  | .clock => do return (← Act.look).host.time
  | .user => do return (← Act.look).host.login.elim (.error .system) .ok
  | .chance => Act.chance
  | .pause seconds => attempted do
    let _ ← (← Act.look).host.pause? seconds
    Act.sleep seconds
  | .member of name =>
    match of with
    | .sprite i => spriteMember i name
    | _ => return .error .missingMember
  | .setMember of name v => setMember of name v
  | .invoke of name args =>
    match of with
    | .sprite i => do return (← invoked i name args).map .value
    | _ => return .error .wrongKind
  | .use name args => attempted (use name args)

/-! ## Evaluations -/

/-- How far an evaluation came. -/
inductive Outcome where
  | ended (d : Datum)
  | failed (f : Fault)
  /-- It handed out an item, and goes on with what it is given. -/
  | gave (d : Datum) (k : Except Fault Datum → Flow)

/-- Carries an evaluation out up to its end or the first item that it hands out. -/
def advance (resume : Nat → Except Fault Datum → Act Turn) : Flow → Act Outcome
  | .ended d => return .ended d
  | .failed f => return .failed f
  | .ask q k => do
    let reply ← answer q
    advance resume (k reply)
  | .spawn body k => do
    let n ← spawn body
    advance resume (k n)
  | .give d k => return .gave d k
  | .resume n given k => do
    let turn ← resume n given
    advance resume (k turn)

/-- Runs what is left of a walk up to the next item, and notes how far it is then. -/
def runOn (resume : Nat → Except Fault Datum → Act Turn) (n : Nat) (body : Flow) : Act Turn := do
  setPaused n .running
  match ← advance resume body with
  | .ended d =>
    setPaused n .over
    return .ended d
  | .failed f =>
    setPaused n .over
    return .failed f
  | .gave d k =>
    setPaused n (.waiting k)
    return .gave d

/-- Goes on with a walk up to the next item; the first argument bounds how deep walks use one another. -/
def resume : Nat → Nat → Except Fault Datum → Act Turn
  | 0, _, _ => return .failed .tooDeep
  | depth + 1, n, given => do
    match (← Act.look).memory.paused[n]?, given with
    | some .running, _ =>
      return .failed (.raised "ValueError" "generator already executing" 0)
    | some (.fresh body), .ok (.one .null) => runOn (resume depth) n body
    | some (.fresh _), .ok _ => return .failed .wrongKind
    | some (.fresh _), .error f => do
      setPaused n .over
      return .failed f
    | some (.waiting k), given => runOn (resume depth) n (k given)
    | _, .ok _ => return .ended .null
    | _, .error f => return .failed f

/-- How deep walks may use one another. -/
def walkDepth : Nat := 1000

/-- Carries an evaluation out. -/
def evaluate (flow : Flow) : Act Datum := do
  match ← advance (resume walkDepth) flow with
  | .ended d => return d
  | .failed f => .fail (.ofFault f)
  | .gave _ _ => throw .badLiteral

end BlockStage.Written
