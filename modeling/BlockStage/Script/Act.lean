import BlockStage.Located

/-!
# What blocks do

A block does not touch the world itself. It is an `Act`: a tree of requests, each continued with its
answer, that ends in a value or a fault. So a fact that every request keeps is kept by every block.
`Act.perform` carries an act out, given what it means to run another script.
-/

namespace BlockStage

/-- What a block can ask of the world. -/
inductive Request where
  | look
  | log (line : LogLine)
  | record (call : Call)
  | print (text : String)
  | remember (f : Expression.Memory → Expression.Memory)
  | write (r : Expression.Ref) (v : Value)
  | set (sprite : Nat) (a : Attribute) (v : Value)
  | assign (sprite : Nat) (key : String) (v : Value)
  | replace (sprite : Nat) (fields : Table Value)
  | drop (sprite : Nat) (key : String)
  /-- To let a sprite say nothing, and forget what scripts have bound on it. -/
  | reset (sprite : Nat)
  | say (sprite : Nat) (words : String)
  | setVariable (holder : World.Holder) (id text : String)
  | setList (holder : World.Holder) (id : String) (items : List Value)
  | paint (sprite : Nat) (image : Surface) (rect : Rect)
  | showMonitor (index : Nat) (visible : Bool)
  | bind (sprite thread : Nat) (name value : Value)
  | rebind (sprite : Nat) (bindings : List Binding)
  /-- To make a sprite with some attributes, which is not on the stage; the answer is its number. -/
  | make (fields : Table Value)
  | copy (of : Nat)
  /-- To add a clone of a sprite; the answer is its number. -/
  | addClone (of : Nat)
  | start (sprite : Nat) (flag : Value)
  | delete (sprite : Nat)
  | stop
  | setDone (done : Bool)
  | resetTimer (sprite : Nat)
  | chance
  | sleep (seconds : Float)
  | tick
  /-- To run a script to its end; the answer is what its first block returned. -/
  | run (sprite : Nat) (flag : Value)
  /-- To run a block, and those after it if `next`; a fault that it leaves behind is an answer too. -/
  | attempt (sprite : Nat) (flag : Value) (next : Bool)
  /-- To do what a name means on a sprite; a fault is an answer too. -/
  | invoke (sprite : Nat) (name : String) (args : List Value)

/-- The answer to a request. -/
abbrev Request.Reply : Request → Type
  | .look => World
  | .make _ | .copy _ => Nat
  | .addClone _ => Nat
  | .chance => Int
  | .run _ _ => Value
  | .attempt _ _ _ | .invoke _ _ _ => Except Failure Value
  | _ => Unit

/-- What a method of a `Sprite` does. -/
inductive Act (α : Type) where
  | ret (a : α)
  | fail (e : Failure)
  /-- To go round for ever without doing anything. -/
  | endless
  | ask (r : Request) (k : r.Reply → Act α)

namespace Act

variable {α β : Type}

protected def bind : Act α → (α → Act β) → Act β
  | .ret a, f => f a
  | .fail e, _ => .fail e
  | .endless, _ => .endless
  | .ask r k, f => .ask r fun answer => (k answer).bind f

instance : Monad Act where
  pure := .ret
  bind := Act.bind

/-- A computation that may fail, as an act. -/
def ofExcept : Except Fault α → Act α
  | .ok a => .ret a
  | .error f => .fail (.error f)

instance : MonadLift (Except Fault) Act := ⟨ofExcept⟩

protected def tryCatch : Act α → (Fault → Act α) → Act α
  | .ret a, _ => .ret a
  | .fail e, handle => handle e.fault
  | .endless, _ => .endless
  | .ask r k, handle => .ask r fun answer => (k answer).tryCatch handle

instance : MonadExcept Fault Act where
  throw f := .fail (.error f)
  tryCatch := Act.tryCatch

@[simp] theorem ret_bind (a : α) (f : α → Act β) : (Act.ret a >>= f) = f a := rfl

@[simp] theorem fail_bind (e : Failure) (f : α → Act β) : (Act.fail e >>= f) = .fail e := rfl

@[simp] theorem ask_bind (r : Request) (k : r.Reply → Act α) (f : α → Act β) :
    (Act.ask r k >>= f) = .ask r fun answer => k answer >>= f := rfl

theorem bind_ret (act : Act α) : (act >>= Act.ret) = act := by
  induction act with
  | ask r k ih => simp only [ask_bind]; exact congrArg _ (funext ih)
  | _ => rfl

protected theorem bind_assoc {γ : Type} (act : Act α) (f : α → Act β) (g : β → Act γ) :
    (act >>= f >>= g) = act >>= fun a => f a >>= g := by
  induction act with
  | ask r k ih => simp only [ask_bind]; exact congrArg _ (funext ih)
  | _ => rfl

instance : LawfulMonad Act := LawfulMonad.mk' _ bind_ret (fun _ _ => rfl) Act.bind_assoc

/-! ## The requests as acts -/

def look : Act World := .ask .look .ret
def log (line : LogLine) : Act Unit := .ask (.log line) .ret
def record (call : Call) : Act Unit := .ask (.record call) .ret
def set (sprite : Nat) (a : Attribute) (v : Value) : Act Unit := .ask (.set sprite a v) .ret
def say (sprite : Nat) (words : String) : Act Unit := .ask (.say sprite words) .ret
def stop : Act Unit := .ask .stop .ret
def chance : Act Int := .ask .chance .ret
def sleep (seconds : Float) : Act Unit := .ask (.sleep seconds) .ret
def tick : Act Unit := .ask .tick .ret
def run (sprite : Nat) (flag : Value) : Act Value := .ask (.run sprite flag) .ret

/-- Reads an attribute of a sprite. -/
def attr (sprite : Nat) (a : Attribute) : Act Value := do
  ((← look).sprite sprite).attribute? a

/-- Computes an attribute anew from its value, which is read first, and an amount. -/
def adjust (op : Number → Number → Except Fault Number) (sprite : Nat) (a : Attribute)
    (amount : Except Fault Value) : Act Unit := do
  let old ← attr sprite a
  let step ← amount
  set sprite a (← Value.arith? op old step)

/-- `x += amount` -/
def change (sprite : Nat) (a : Attribute) (amount : Except Fault Value) : Act Unit :=
  adjust Number.add sprite a amount

end Act

/-! ## Carrying acts out -/

/-- Why a run ends early. -/
inductive Stop where
  | fault (e : Failure)
  /-- A limit was reached; this ends the script at once. -/
  | killed (why : Limit)
  /-- The script would go on for ever without doing anything. -/
  | endless
  deriving DecidableEq, Repr

/-- A run in the world. A run that fails keeps what it did. -/
abbrev Run := ExceptT Stop (StateM World)

namespace Run

variable {α : Type}

/-- A computation that may fail, as a run. -/
def ofExcept : Except Fault α → Run α
  | .ok a => pure a
  | .error f => throw (.fault (.error f))

instance : MonadLift (Except Fault) Run := ⟨ofExcept⟩

def log (line : LogLine) : Run Unit := modify fun w => { w with log := w.log.push line }

def record (call : Call) : Run Unit := modify (·.record call)

/-- Draws on the canvas of the world. -/
def paint (p : Paint α) : Run α := do
  let (result, _, calls) := p.react ()
  modify (calls.foldl World.record)
  ofExcept result

/-- Draws and looks at the mouse. A fault keeps the look. -/
def pointAt (r : Reaction Pointer Call α) : Run α := do
  let (result, pointer, calls) := r.react (← get).pointer
  modify fun w => calls.foldl World.record { w with pointer := pointer }
  ofExcept result

/-- What comes of a run, be it a fault; a limit still ends it. -/
def attempt (r : Run α) : Run (Except Failure α) := do
  try return .ok (← r)
  catch
    | .fault e => return .error e
    | other => throw other

end Run

/-- How scripts are run while a block acts. -/
structure Player where
  run : Nat → Value → Bool → Run Value
  invoke : Nat → String → List Value → Run Value

namespace World

/-- `Sprite.copy` -/
def copy (w : World) (i : Nat) : World := { w with sprites := w.sprites ++ [(w.sprite i).reset] }

/-- `control_create_clone_of`: a copy whose `clone_mode` is 1. -/
def addClone (w : World) (i : Nat) : World :=
  { w with
    sprites := w.sprites ++ [(w.sprite i).reset.put CloneMode.key CloneMode.clone.value]
    clones := w.clones ++ [w.sprites.length] }

/-- `Thread.start`: a script begins to wait. -/
def start (w : World) (i : Nat) (flag : Value) : World :=
  { w with
    queue := w.queue ++ [⟨w.threads + 1, i, flag⟩]
    threads := w.threads + 1 }

/-- `control_delete_this_clone`; what is no clone stays. -/
def deleteClone (s : Sprite) : Sprite :=
  match s.hasMode? .clone with
  | .ok true => s.put CloneMode.key CloneMode.deleted.value
  | _ => s

end World

/-- What a request does in the world. -/
def Request.perform (p : Player) : (r : Request) → Run r.Reply
  | .look => get
  | .log line => Run.log line
  | .record call => Run.record call
  | .print text => modify (·.print text)
  | .remember f => modify fun w => { w with memory := f w.memory }
  | .write r v => modify fun w => (w.write? r v).getD w
  | .set i a v => modify fun w => w.updateSprite i (·.set a v)
  | .assign i key v => modify fun w => w.updateSprite i (·.put key v)
  | .replace i fields => modify fun w => w.updateSprite i fun s => { s with fields := fields }
  | .drop i key => modify fun w => w.updateSprite i (·.drop key)
  | .reset i => modify fun w => w.updateSprite i (·.reset)
  | .say i words => modify fun w => w.updateSprite i (·.put Sprite.wordsKey (.text words))
  | .setVariable holder id text => modify fun w => w.putData holder .vars id (.text text)
  | .setList holder id items => modify fun w => w.putData holder .lists id (.list items)
  | .paint i image rect => modify fun w => w.updateSprite i (·.paint image rect)
  | .showMonitor index visible =>
    modify fun w =>
      { w with monitors := w.monitors.modify index (·.put "visible" (.bool visible)) }
  | .bind i thread name value => modify fun w => w.updateSprite i (·.bind thread name value)
  | .rebind i bindings => modify fun w => w.updateSprite i fun s => { s with arguments := bindings }
  | .make fields => do
    let w ← get
    modify fun w => { w with sprites := w.sprites ++ [Sprite.reset { fields := fields, kit := 0 }] }
    return w.sprites.length
  | .copy i => do
    let w ← get
    modify (·.copy i)
    return w.sprites.length
  | .addClone i => do
    let w ← get
    modify (·.addClone i)
    return w.sprites.length
  | .start i flag => modify fun w => w.start i flag
  | .delete i => modify fun w => w.updateSprite i World.deleteClone
  | .stop => modify fun w => { w with done := true }
  | .setDone done => modify fun w => { w with done := done }
  | .resetTimer i => do
    let now ← (← get).host.time
    modify fun w => w.updateSprite i (·.put "time" (Value.float now))
  | .chance => do
    let w ← get
    modify fun w => { w with host := w.host.chance.2 }
    return w.host.chance.1
  | .sleep seconds => do
    let ms ← (← get).host.pause? seconds
    Run.record (.sleep seconds)
    modify fun w => { w with host := w.host.advance ms }
  | .tick => do
    modify fun w => { w with ticks := w.ticks - 1 }
    if (← get).ticks ≤ 0 then throw (.killed .ticks)
  | .run i flag => p.run i flag true
  | .attempt i flag next => Run.attempt (p.run i flag next)
  | .invoke i name args => Run.attempt (p.invoke i name args)

/-- Carries an act out. -/
def Act.perform {α : Type} (p : Player) : Act α → Run α
  | .ret a => pure a
  | .fail e => throw (.fault e)
  | .endless => throw .endless
  | .ask r k => do
    let answer ← r.perform p
    (k answer).perform p

theorem Act.perform_bind {α β : Type} (p : Player) (act : Act α) (f : α → Act β) :
    (act >>= f).perform p = (act.perform p >>= fun a => (f a).perform p) := by
  induction act with
  | ret a => rfl
  | fail e => rfl
  | endless => rfl
  | ask r k ih =>
    simp only [Act.ask_bind, Act.perform, bind_assoc]
    exact congrArg _ (funext ih)

end BlockStage
