import BlockStage.Expression.Function

/-!
# Giving names to values

A target takes a value. The parameters of a function take the arguments of a call.
-/

namespace BlockStage.Expression

open Eval

/-! ## Targets -/

def firstElements (d : Datum) (count : Nat) : Eval (List Datum) := do
  let found ← each d [] fun so d => return (d :: so, so.length + 1 < count)
  return found.reverse

def sharedElements (targets : List Target) (d : Datum) : Eval (List Datum) := do
  let items ← firstElements (← iter d) (targets.length + 1)
  if items.length ≠ targets.length then throw .badValue
  return items

mutual

/-- Lets a target take a value. -/
def assign (ev : Expr → Eval Datum) (name : String → Datum → Eval Unit) : Target → Datum → Eval Unit
  | .name s, d => name s d
  | .several targets, d => do assignAll ev name targets (← sharedElements targets d)
  | .part e index, d => do setPart (← ev e) (← ev index) d
  | .member e s, d => do setMember (← ev e) s d

def assignAll (ev : Expr → Eval Datum) (name : String → Datum → Eval Unit) :
    List Target → List Datum → Eval Unit
  | t :: more, d :: items => do
    assign ev name t d
    assignAll ev name more items
  | _, _ => return ()

end

/-! ## Parameters -/

def leftNamed (parameters : List Parameter) (named : List (String × Datum)) :
    List (String × Datum) :=
  let takers := parameters.filter fun p => p.kind = .plain || p.kind = .named
  named.filter fun p => !(takers.any (·.name == p.1))

/-- What parameters are given by arguments and defaults. -/
def bindParameters (parameters : List Parameter) (defaults : List (String × Datum))
    (a : Args) : Eval (List (String × Datum)) := do
  let byPlace := parameters.filter fun p => p.kind = .plain
  let placed := (byPlace.map Parameter.name).zip a.placed
  let left := leftNamed parameters a.named
  if !left.isEmpty && !parameters.any (·.kind = .namedRest) then throw .wrongKind
  if a.named.any fun p => parameters.any
      (fun q => q.kind = .plain && q.name == p.1) && (placed.lookup p.1).isSome then throw .wrongKind
  let extra := a.placed.drop byPlace.length
  if !extra.isEmpty && !parameters.any (·.kind = .rest) then throw .wrongKind
  let isMissing (p : Parameter) : Bool :=
    (placed.lookup p.name).isNone && (defaults.lookup p.name).isNone && (a.named.lookup p.name).isNone
  if byPlace.any isMissing || parameters.any (fun p => p.kind = .named && isMissing p) then throw .wrongKind
  parameters.mapM fun p => do
    match p.kind with
    | .rest => return (p.name, .tuple extra)
    | .namedRest => return (p.name, ← namedRecord left)
    | _ =>
      let some d := placed.lookup p.name <|> a.named.lookup p.name <|> defaults.lookup p.name | throw .wrongKind
      return (p.name, d)

end BlockStage.Expression
