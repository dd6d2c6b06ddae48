import BlockStage.Expression.Assign

/-!
# Evaluation

Parts are evaluated from left to right, and only as far as the value depends on them. A walk that is
written in an expression has a frame of its own, in which all is evaluated but what it goes through
first.
-/

namespace BlockStage.Expression

open Eval

/-! ## Parts of expressions, given the way to evaluate one -/

def evalItems (ev : Expr → Eval Datum) : List Expr → Eval (List Datum)
  | [] => return []
  | .spread e :: rest => do return (← elements (← ev e)) ++ (← evalItems ev rest)
  | e :: rest => do return (← ev e) :: (← evalItems ev rest)

def putPairs (done fields : List (Datum × Datum)) : Eval (List (Datum × Datum)) := do
  fields.forM fun p => Eval.ofExcept p.1.needName
  return Method.Record.putAll done fields

def fieldsOf (d : Datum) : Eval (List (Datum × Datum)) := do
  let .record fields ← open? d | throw .wrongKind
  return fields

/-- The fields of a record, given those that are done; a spread record gives all its fields. -/
def evalFields (ev : Expr → Eval Datum) :
    List (Datum × Datum) → List (Datum × Datum) → List Field → Eval (List (Datum × Datum))
  | done, waiting, [] => putPairs done waiting
  | done, waiting, .spread e :: rest => do
    let done ← putPairs done waiting
    let fields ← fieldsOf (← ev e)
    evalFields ev (Method.Record.putAll done fields) [] rest
  | done, waiting, .pair key value :: rest => do
    evalFields ev done (waiting ++ [(← ev key, ← ev value)]) rest

/-- A chain of comparisons. -/
def evalChain (ev : Expr → Eval Datum) (d : Datum) : List (Relation × Expr) → Eval Bool
  | [] => return true
  | (r, e) :: rest => do
    let next ← ev e
    if ← related r d next then evalChain ev next rest else return false

/-- The text of a part of a template. -/
def evalPart (ev : Expr → Eval Datum) : Part → Eval String
  | .literal s => return s
  | .field e echo conversion spec => do
    let d ← ev e
    let conversion := if !echo.isEmpty && conversion.isNone && spec.isNone then some 'r'
      else conversion
    let d ← Method.Fields.converted d conversion
    let spec ← ev (.template (spec.getD []))
    return echo ++ (← format d (← spec.needText))

def evalPlaced (ev : Expr → Eval Datum) : List Argument → Eval (List Datum)
  | [] => return []
  | .placed e :: rest => do return (← ev e) :: (← evalPlaced ev rest)
  | .spread e :: rest => do return (← elements (← ev e)) ++ (← evalPlaced ev rest)
  | _ :: rest => evalPlaced ev rest

def evalNamed (ev : Expr → Eval Datum) :
    List (String × Datum) → List Argument → Eval (List (String × Datum))
  | done, [] => return done
  | done, .named s e :: rest => do
    let d ← ev e
    if (done.lookup s).isSome then throw .wrongKind
    evalNamed ev (done ++ [(s, d)]) rest
  | done, .spreadNamed e :: rest => do
    let more ← Function.textFields (← fieldsOf (← ev e))
    if more.any fun p => (done.lookup p.1).isSome then throw .wrongKind
    evalNamed ev (done ++ more) rest
  | done, _ :: rest => evalNamed ev done rest

/-- The arguments of a call. -/
def evalArgs (ev : Expr → Eval Datum) (args : List Argument) : Eval Args := do
  return { placed := ← evalPlaced ev args, named := ← evalNamed ev [] args }

def evalDefaults (ev : Expr → Eval Datum) (parameters : List Parameter) :
    Eval (List (String × Datum)) := do
  let found ← parameters.mapM fun p => p.default.mapM fun e => do return (p.name, ← ev e)
  return found.filterMap id

/-- A written function. -/
def makeFunction (ev : Expr → Eval Datum) (name : String) (parameters : List Parameter) (gives : Bool)
    (body : Expr) : Eval Datum := do
  let defaults ← evalDefaults ev parameters
  let s ← Eval.scope
  make (.function name) (.function {
    parameters, gives, defaults, body
    scope := { s with own := none } })

/-! ## Walks that are written -/

/-- What comes of the clauses of a walk in a frame, given what is done for each item. -/
def walkClauses {σ : Type} (ev : Expr → Eval Datum) (frame : Nat) (body : σ → Eval σ) :
    List Clause → σ → Eval σ
  | [], so => body so
  | .only condition :: rest, so => do
    if ← holds (← ev condition) then walkClauses ev frame body rest so else return so
  | .each target source :: rest, so => do
    each (← ev source) so fun so d => do
      assign ev (fun s d => setInFrame frame [(s, some d)]) target d
      return (← walkClauses ev frame body rest so, true)

/-- The scope of a walk, the target of its items, and the walk over the first source. -/
def walkStart (ev : Expr → Eval Datum) (clauses : List Clause) :
    Eval (Nat × Scope × Target × Datum × List Clause) := do
  let .each target source :: rest := clauses | throw .badLiteral
  let w ← iter (← ev source)
  let frame ← newFrame ⟨false, (Clause.names clauses).map (·, none)⟩
  let s ← Eval.scope
  return (frame, { s with frames := frame :: s.frames, own := none }, target, w, rest)

def walkOn {σ : Type} (ev : Expr → Eval Datum) (frame : Nat) (target : Target) (w : Datum)
    (rest : List Clause) (body : σ → Eval σ) (start : σ) : Eval σ :=
  each w start fun so d => do
    assign ev (fun s d => setInFrame frame [(s, some d)]) target d
    return (← walkClauses ev frame body rest so, true)

/-- Goes through a comprehension. -/
def walkThrough {σ : Type} (ev : Expr → Eval Datum) (clauses : List Clause) (body : σ → Eval σ)
    (start : σ) : Eval σ := do
  let (frame, s, target, w, rest) ← walkStart ev clauses
  within s (walkOn ev frame target w rest body start)

def withoutEnd (body : Eval Datum) : Eval Datum :=
  tryCatch body fun f =>
    if isEnd f then raise "RuntimeError" "generator raised StopIteration" else throw f

def handingOut (r : Eval Datum) : Eval Datum := do
  if (← callFrame? (← Eval.scope).frames).isNone then throw .badLiteral
  r

/-! ## Expressions -/

/-- The value of an expression; the first argument bounds how deep its parts are nested. -/
def eval : Nat → Expr → Eval Datum
  | 0, _ => throw .tooDeep
  | n + 1, e =>
    let ev := eval n
    match e with
    | .datum v => return .one v
    | .imaginary x => return .complex 0.0 x
    | .bytes codes => return .bytes codes
    | .template parts => do return .text (String.join (← parts.mapM (evalPart ev)))
    | .name s => lookup s
    | .bound s e => do
      let d ← ev e
      bind s d
      return d
    | .row shape items => do
      let items ← evalItems ev items
      match shape with
      | .list => list items
      | shape => return .row shape items
    | .record fields => do record (← evalFields ev [] [] fields)
    | .gathered none e clauses => do
      let (frame, s, target, w, rest) ← walkStart ev clauses
      spawn (within s (withoutEnd do
        walkOn ev frame target w rest (fun _ => do let _ ← give (← ev e)) ()
        return .null))
    | .gathered (some shape) e clauses => do
      let items ← walkThrough ev clauses (fun so => do return (← ev e) :: so) []
      if shape = .list then list items.reverse else return .row shape items.reverse
    | .gatheredRecord key value clauses => do
      let fields ← walkThrough ev clauses (fun so => do
        let k ← ev key
        let v ← ev value
        k.needName
        return Datum.put so k v) []
      record fields
    | .spread e => ev e
    | .negation e => do return .bool !(← holds (← ev e))
    | .signed op e => do (← ev e).signed? op
    | .binary op a b => do binary op (← ev a) (← ev b)
    | .conjunction a b => do
      let x ← ev a
      if ← holds x then ev b else return x
    | .disjunction a b => do
      let x ← ev a
      if ← holds x then return x else ev b
    | .comparison a rest => do return .bool (← evalChain ev (← ev a) rest)
    | .choice condition a b => do if ← holds (← ev condition) then ev a else ev b
    | .part e index => do part (← ev e) (← ev index)
    | .range first last step => do return .range (← ev first) (← ev last) (← ev step)
    | .member e name => do member (← ev e) name
    | .call f args => do call (← ev f) (← evalArgs ev args)
    | .function parameters gives body =>
      makeFunction ev "<lambda>" parameters gives body
    | .given e => do
      let d ← e.mapM ev
      handingOut (give (d.getD .null))

def depthLimit : Nat := 100000

/-! ## Statements -/

/-- Runs a statement. -/
def exec : Statement → Eval Unit
  | .expr e => do let _ ← eval depthLimit e
  | .assign targets e => do
    let d ← eval depthLimit e
    targets.forM fun t => assign (eval depthLimit) bind t d

end BlockStage.Expression
