import BlockStage.Expression.Eval

/-!
# Calls

A written function is entered with a frame of its own.
-/

namespace BlockStage.Expression

open Eval

/-! ## Written functions -/

/-- Calls a written function. If it hands out items, the call is a walk over these. -/
def enterFunction (f : Function) (a : Args) : Eval Datum := do
  let names ← bindParameters f.parameters f.defaults a
  let frame ← newFrame ⟨true, names.map fun (s, d) => (s, some d)⟩
  let body := within { f.scope with frames := frame :: f.scope.frames } (eval depthLimit f.body)
  if f.gives then spawn (withoutEnd body) else body

/-! ## All that can be called -/

/-- Calls a value. -/
def apply (f : Datum) (a : Args) : Eval Datum := do
  match f with
  | .builtin name => Function.builtin name a
  | .method (.module m) name => Module.call m name a
  | .method (.builtin kind) name =>
    if name == "__call__" then call (.builtin kind) a
    else if Datum.isKind kind then Method.ofKind kind name a
    else Method.own (.builtin kind) name a
  | .method d@(.method _ _) "__call__" | .method d@(.ref (.function _) _) "__call__" => call d a
  | .method d name => Method.own d name a
  | .ref (.function _) r =>
    let .function f ← fetch r | throw .wrongKind
    enterFunction f a
  | _ => throw .wrongKind

/-- What an evaluation in a scope can use, if calls can go a number deep. -/
def env : Nat → Scope → Env
  | 0, s => {
      scope := s
      call := fun _ _ _ fail _ => fail .tooDeep
      value := fun _ _ fail _ => fail .tooDeep
      run := fun _ _ fail _ => fail .tooDeep }
  | n + 1, s => {
      scope := s
      call := fun s f a => apply f a (env n s)
      value := fun s e => eval depthLimit e (env n s)
      run := fun s body => body.forM exec (env n s) }

def callLimit : Nat := 980

def flowIn (names : Ref) (r : Eval Datum) : Flow :=
  r (env callLimit { own := some names }) .failed .ended

end BlockStage.Expression
