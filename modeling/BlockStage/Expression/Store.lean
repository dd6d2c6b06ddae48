import BlockStage.Expression.Call

/-!
# What can change while an expression is evaluated

Lists, records, walks and functions can change, so that a value only refers to them. An evaluation is
a `Flow`: a tree of queries, each continued with its answer, that ends in a value or a fault. Flows are
written as `Eval`: an evaluation is given what to do with a fault and what to do with a value.
-/

namespace BlockStage.Expression

/-! ## Things that can change -/

/-- Where names have a meaning. -/
structure Scope where
  /-- The frames of the calls and walks that are around, the innermost first. -/
  frames : List Nat := []
  /-- The record of the names that are found first, if no frame is in front of it. -/
  own : Option Ref := none
  /-- The record of the names that are seen everywhere, if it is not that of the program. -/
  shared : Option Ref := none

/-- A written function. -/
structure Function where
  parameters : List Parameter
  gives : Bool
  defaults : List (String × Datum)
  body : Expr
  scope : Scope

/-- What is left of a walk. -/
inductive Walk where
  | ended
  | items (rest : List Datum)
  | span (next step : Int) (left : Nat)
  | list (of : Ref) (position : Nat)
  /-- What a view shows of a record from a position on, if the record still has as many fields. -/
  | record (part : View) (of : Ref) (size position : Nat)
  | zipped (walks : List Datum)
  | mapped (f : Datum) (walks : List Datum)
  | called (f last : Datum)

/-- The names of a call. -/
structure Frame where
  isCall : Bool
  names : List (String × Option Datum)

/-- What a reference stands for. -/
inductive Obj where
  | list (items : List Datum)
  | record (fields : List (Datum × Datum))
  | buffer (codes : List Nat)
  | walk (w : Walk)
  | function (f : Function)
  | frame (f : Frame)
  | kind (name : String) (bases : List Datum) (fields : List (String × Datum))
  /-- Something of a kind, with its attributes. -/
  | item (kind : String) (fields : List (String × Datum))

/-! ## Queries -/

inductive Answer where
  | value (v : Value)
  | datum (d : Datum)

/-- What an evaluation can ask of what is around it. -/
inductive Query where
  | make (o : Obj)
  | fetch (r : Ref)
  | store (number : Nat) (o : Obj)
  | write (r : Ref) (v : Value)
  | bind (sprite : Nat) (script : Datum) (name value : Value)
  | rebind (sprite : Nat) (fields : List ((Datum × Value) × Value))
  /-- To keep a value for the program, which knows it by the number that is the answer. -/
  | keep (d : Datum)
  | kept (number : Nat)
  | name (s : String)
  | setName (s : String) (given : Option (Datum × Value))
  | print (s : String)
  | log (s : String)
  | clock
  | user
  | chance
  | pause (seconds : Float)
  | member (of : Datum) (name : String)
  | setMember (of : Datum) (name : String) (v : Option Value)
  | invoke (of : Datum) (name : String) (args : List Value)
  | use (name : String) (args : List Value)

/-- The answer to a query. -/
abbrev Query.Reply : Query → Type
  | .make _ | .keep _ => Nat
  | .fetch _ => Option Obj
  | .write _ _ | .pause _ | .setMember _ _ _ => Except Fault Unit
  | .name _ | .kept _ => Option Datum
  | .clock => Except Fault Float
  | .user => Except Fault String
  | .chance => Int
  | .member _ _ => Except Fault Datum
  | .invoke _ _ _ | .use _ _ => Except Fault Answer
  | .store _ _ | .bind _ _ _ _ | .rebind _ _ | .setName _ _ | .print _ | .log _ => Unit

/-- A walk handed out an item, or has ended. -/
inductive Turn where
  | gave (d : Datum)
  | ended (d : Datum)
  | failed (f : Fault)

/-- An evaluation. -/
inductive Flow where
  | ended (d : Datum)
  | failed (f : Fault)
  | ask (q : Query) (k : q.Reply → Flow)
  | spawn (body : Flow) (k : Nat → Flow)
  /-- Hands an item out of the walk that is run. It goes on with what it is given, be it a fault. -/
  | give (d : Datum) (k : Except Fault Datum → Flow)
  | resume (number : Nat) (given : Except Fault Datum) (k : Turn → Flow)

/-- How far a walk is that hands out its items while it is run. -/
inductive Paused where
  | fresh (body : Flow)
  | waiting (k : Except Fault Datum → Flow)
  | running
  | over

/-- What evaluations have made. -/
structure Memory where
  objects : Array Obj := #[]
  paused : Array Paused := #[]
  /-- The values that the program knows by a number, which is one more than their position. -/
  kept : Array Datum := #[]
  /-- The names that are seen everywhere and were given another meaning. -/
  names : List (String × Option Datum) := []

def Memory.withName (m : Memory) (s : String) (d : Option Datum) : Memory :=
  { m with names := (s, d) :: m.names.filter (·.1 != s) }

/-! ## Evaluations -/

/-- What is left to do, given what to do with a fault and with a value. -/
abbrev Rest (α : Type) := (Fault → Flow) → (α → Flow) → Flow

/-- What an evaluation can use. -/
structure Env where
  scope : Scope
  call : Scope → Datum → Args → Rest Datum
  value : Scope → Expr → Rest Datum
  run : Scope → List Statement → Rest Unit

/-- An evaluation that gives an `α`. -/
def Eval (α : Type) : Type := Env → Rest α

namespace Eval

variable {α β : Type}

instance : Monad Eval where
  pure a := fun _ _ ok => ok a
  bind r f := fun env fail ok => r env fail fun a => f a env fail ok

instance : LawfulMonad Eval := LawfulMonad.mk' _ (fun _ => rfl) (fun _ _ => rfl) (fun _ _ _ => rfl)

instance : MonadExcept Fault Eval where
  throw f := fun _ fail _ => fail f
  tryCatch r handle := fun env fail ok => r env (fun f => handle f env fail ok) ok

def ofExcept : Except Fault α → Eval α
  | .ok a => pure a
  | .error f => throw f

instance : MonadLift (Except Fault) Eval := ⟨ofExcept⟩

instance : Inhabited (Eval α) := ⟨throw .wrongKind⟩

/-- Asks a query. -/
def ask (q : Query) : Eval q.Reply := fun _ _ ok => .ask q ok

/-- An evaluation whose fault is a result. -/
def attempt (r : Eval α) : Eval (Except Fault α) := fun env _ ok =>
  r env (fun f => ok (.error f)) (fun a => ok (.ok a))

def scope : Eval Scope := fun env _ ok => ok env.scope

/-- Evaluates in a scope. -/
def within (s : Scope) (r : Eval α) : Eval α := fun env => r { env with scope := s }

/-- Calls something. -/
def call (f : Datum) (a : Args) : Eval Datum := fun env => env.call env.scope f a

def callWith (f : Datum) (placed : List Datum) : Eval Datum := call f { placed := placed }

def value (s : Scope) (e : Expr) : Eval Datum := fun env => env.value s e

def run (s : Scope) (body : List Statement) : Eval Unit := fun env => env.run s body

/-- Makes a walk of an evaluation. -/
def spawn (body : Eval Datum) : Eval Datum := fun env _ ok =>
  .spawn (body env .failed .ended) fun n => ok (.generator n)

/-- Hands an item out, and gives what it was given in turn. -/
def give (d : Datum) : Eval Datum := fun _ fail ok =>
  .give d fun given => given.casesOn fail ok

def resume (number : Nat) (given : Except Fault Datum) : Eval Turn := fun _ _ ok =>
  .resume number given ok

/-! ## Making and changing things -/

def make (tag : Tag) (o : Obj) : Eval Datum := do
  let n ← ask (.make o)
  return .ref tag ⟨.made n, []⟩

def fetch? (r : Ref) : Eval (Option Obj) := ask (.fetch r)

/-- What a reference stands for. -/
def fetch (r : Ref) : Eval Obj := do (← fetch? r).elim (throw .missingMember) pure

def list (items : List Datum) : Eval Datum := make .list (.list items)

def record (fields : List (Datum × Datum)) : Eval Datum := make .record (.record fields)

def walk (kind : String) (w : Walk) : Eval Datum := make (.walk kind) (.walk w)

def namedRecord (fields : List (String × Datum)) : Eval Datum :=
  record (fields.map fun (k, d) => (.text k, d))

/-- Makes the lists and records that a value has. -/
def settle : Datum → Eval Datum
  | .row .list items => do list (← settleAll items)
  | .row shape items => do return .row shape (← settleAll items)
  | .record fields => do record (← settleFields fields)
  | .buffer codes => make .buffer (.buffer codes)
  | .one (.place x y) => do
    let x ← place x
    let y ← place y
    make (.item "Position") (.item "Position" [("x", x), ("y", y)])
  | .one (.object kind shown n) => do
    if n = 0 then return .one (.object kind shown n)
    return (← ask (.kept n)).getD (.one (.object kind shown n))
  | d => return d
where
  place (v : Value) : Eval Datum :=
    match Datum.ofValue v with
    | .row _ items => list items
    | .record fields => record fields
    | d => return d
  settleAll : List Datum → Eval (List Datum)
    | [] => return []
    | d :: rest => do
      let d ← settle d
      return d :: (← settleAll rest)
  settleFields : List (Datum × Datum) → Eval (List (Datum × Datum))
    | [] => return []
    | (k, d) :: rest => do
      let d ← settle d
      return (k, d) :: (← settleFields rest)

def ofValue (v : Value) : Eval Datum := settle (.ofValue v)

def ofAnswer : Except Fault Answer → Eval Datum
  | .ok (.value v) => ofValue v
  | .ok (.datum d) => return d
  | .error f => throw f

end Eval

end BlockStage.Expression
