import BlockStage.Script.Parameter

/-!
# Custom blocks

A custom block has a prototype, which lists the ids and the names of its parameters, and a definition,
whose script is the body. A call finds the last prototype of the sprite and the last definition that
refers to it. Arguments come by id and are bound by name, for the script that calls.
-/

namespace BlockStage

/-- `procedures_call`, `procedure` and `argument_reporter_string_number`. -/
inductive Custom where
  | call
  | argument
  deriving DecidableEq, Repr

namespace Custom

/-- The block of an opcode. -/
def ofName? : String → Option Custom
  | "procedures_call" => some call
  | "argument_reporter_string_number" => some argument
  | _ => none

/-- The last prototype of a sprite. -/
def prototype? (blocks : Table Block) : Option String :=
  (blocks.reverse.find? fun p => p.2.hasOpcode "procedures_prototype").map Prod.fst

/-- Whether a block defines a prototype. -/
def defines (b : Block) (prototype : String) : Bool :=
  match b.branch? "custom_block" with
  | .ok v => v.isText prototype
  | .error _ => false

/-- The last definition of a prototype. -/
def definition? (blocks : Table Block) (prototype : String) : Option String :=
  (blocks.reverse.find? fun p => defines p.2 prototype).map Prod.fst

/-! ## Binding arguments

The lists of ids and of names are written as texts. Where they are not both literals, they are evaluated
one after the other for each argument, and can refer to what is known then: the sprite, the flags of the
call, all arguments, the one that is bound, what the prototype says, and what came of the argument before.
A name that one written list gives to a value can be used in the next. -/

open Expression (Datum Eval Ref)

/-- What the written lists of a call can refer to. -/
structure Known where
  key : Datum
  value : Datum
  mutation : Datum
  /-- The names of the parameters by id, and the name, for the last argument that was bound. -/
  before : Option (Datum × Datum) := none

/-- Brings the names up to date that the written lists can refer to. -/
def bringUp (locals : Ref) (self flags args : Datum) (known : Known) : Eval Unit := do
  let names : List (String × Option Datum) := [
    ("self", some self), ("flags", some flags), ("argcs", some args), ("key", some known.key),
    ("value", some known.value), ("mutation", some known.mutation),
    ("dict1", known.before.map Prod.fst), ("name", known.before.map Prod.snd)]
  match ← Eval.fetch locals with
  | .record fields =>
    let fields := names.foldl (fun fields (s, d) =>
      match d with
      | some d => Datum.put fields (.text s) d
      | none => Eval.withoutField fields (.text s)) fields
    Eval.put locals (.record fields)
  | _ => throw .wrongKind

/-- The ids of a prototype, in upper case. -/
def upperIds (d : Datum) : Eval String := do
  let parts ← (← Eval.elements d).mapM fun part => do
    match part with
    | .one (.text s) => return Text.upper s
    | _ => throw .wrongKind
  return String.join parts

/-- The names of the parameters by id. -/
def namesById (ids names : Datum) : Eval Datum := do
  let pairs ← Expression.Function.zipped { placed := [ids, names] }
  Eval.record (← Expression.Method.Record.extended [] { placed := [pairs] })

/-- Binds one argument and gives the names of the parameters by id and its own. The ids of the prototype stay in
upper case. -/
def bindOne (locals : Ref) (self flags args key value : Datum) (before : Option (Datum × Datum)) :
    Eval (Datum × Datum) := do
  let flag ← Eval.part flags (.text "flag_procedure_prototype")
  let block ← Eval.part (← Eval.member self "blocks") flag
  let mutation ← Eval.part block (.text "mutation")
  let ids ← upperIds (← Eval.part mutation (.text "argumentids"))
  Eval.setPart mutation (.text "argumentids") (.text ids)
  let written (part : String) : Eval Datum := do
    let d ← Eval.part mutation (.text part)
    bringUp locals self flags args ⟨key, value, mutation, before⟩
    Expression.Function.evaluate { placed := [d] }
  let ids ← written "argumentids"
  let byId ← namesById ids (← written "argumentnames")
  let name ← Eval.part byId key
  let script ← Eval.ofAnswer (← Eval.ask (.use "threading.current_thread" []))
  Eval.setPart (← Eval.member self "argument_dict") (.tuple [script, name]) value
  return (byId, name)

/-- `procedure`: binds the arguments of a call and then runs the body; the flags say where prototype and
definition are. -/
def bindAndRun (locals : Ref) (me : Nat) (flags args : Value) : Eval Datum := do
  let self := Datum.sprite me
  let flags ← Eval.ofValue flags
  let args ← Eval.ofValue args
  let _ ← Eval.each (← Eval.callWith (← Eval.member args "items") []) none fun before pair => do
    match pair with
    | .row _ [key, value] => do
      let known ← bindOne locals self flags args key value before
      return (some known, true)
    | _ => throw .wrongKind
  let definition ← Eval.part flags (.text "flag_procedure_definition")
  let sprite ← Eval.toValue self
  Eval.ofAnswer (← Eval.ask (.use "runcode" [sprite, ← Eval.toValue definition]))

/-! ## Calls -/

/-- The prototype and the definition, the code of the block and the block that calls. -/
structure Callee where
  prototype : String
  definition : String
  code : Value
  caller : Value

/-- The `flags` that `procedure` is given. -/
def Callee.flags (c : Callee) : Value := .record [
  ("flag_procedure_prototype", .text c.prototype), ("flag_procedure_definition", .text c.definition),
  ("tagname", c.code), ("callerflag", c.caller)]

/-- Evaluates what the prototype says for each argument. -/
def enterEvaluating (me : Nat) (flags : Value) (args : Arguments) : Act Value := do
  let n ← Written.make (.record [])
  let locals : Ref := ⟨.made n, []⟩
  let _ ← Written.evaluate (Expression.flowIn locals (bindAndRun locals me flags (.record args)))
  return .null

/-- Binds the arguments of a call and runs the body. -/
def enter (me : Nat) (c : Callee) (args : Arguments) : Act Value := do
  if Parameter.areLiteral (← Act.look) me c.prototype args.length then
    Parameter.bindAll me c.prototype args
    let _ ← Written.use.runFrom me (.text c.definition) true
    return .null
  else enterEvaluating me c.flags args

/-- What is found, or a local that was never set. -/
def found? (id : Option String) : Except Fault String := id.elim (.error .unsetLocal) .ok

/-- What a block calls. -/
def callee? (w : World) (me : Nat) (flag : Value) : Except Fault Callee := do
  let mutation ← (← w.block? me flag).get? "mutation"
  let code ← mutation.field? "proccode"
  let prototype ← found? (prototype? (w.blocks me))
  let definition ← found? (definition? (w.blocks me) prototype)
  (w.sprite me).can? "procedure"
  return ⟨prototype, definition, code, flag⟩

/-- What a custom block does. -/
def act (me : Nat) (flag : Value) : Custom → Act Value
  | call => do
    let args ← Arguments.eval me flag
    let callee ← callee? (← Act.look) me flag
    enter me callee args
  | argument => do
    let args ← Arguments.eval me flag
    let name ← args.need "VALUE"
    let w ← Act.look
    (w.sprite me).argument? w.current name

end Custom

end BlockStage
