import BlockStage.Expression.Module.Json
import BlockStage.Expression.Module.Math

/-!
# Calling functions of modules

Functions of modules and of the program.
-/

namespace BlockStage.Expression.Module

open Eval

/-! ## Values that count as others -/

/-- What another evaluation gives if one fails. -/
def orElse (r other : Eval Datum) : Eval Datum := tryCatch r fun _ => other

/-- A coercion such as `safe_int`. -/
def coerced (name : String) (d : Datum) : Eval Datum := do
  match name with
  | "safe_int" =>
    if d.kind == "int" then return d
    orElse (Conversion.toInt { placed := [d] })
      (orElse (do Conversion.toInt { placed := [← Conversion.toFloat { placed := [d] }] })
        (return .int 0))
  | "safe_str" =>
    if d.kind == "str" then return d
    orElse (do return .text (← display d)) (return .text "")
  | "safe_bool" =>
    if ← contains (.tuple [.text "None", .text "False"]) d then return .bool false
    if ← same d (.text "True") then return .bool true
    if d.kind == "bool" then return d
    orElse (do return .bool (← holds d)) (return .bool false)
  | "safe_float" =>
    if d.kind == "float" then return d
    orElse (Conversion.toFloat { placed := [d] }) do
      let _ ← display d
      return .float 0.0
  | _ =>
    match d with
    | .one (.text s) =>
      let parts := s.splitOn "."
      if 2 < parts.length then return .bool false
      return .bool (parts.all fun p => !p.isEmpty && p.toList.all Text.isDigit)
    | d =>
      let _ ← member d "split"
      throw .wrongKind

/-! ## All modules -/

def files : List String := ["asset.txt", "project.json", "project.sb3"]

def placedArgs (a : Args) (names : List String) (needed : Nat) : Eval (List Value) := do
  let found ← a.bind? 0 needed names
  (found.takeWhile Option.isSome).filterMap id |>.mapM toValue

/-- Calls a function of the program. -/
def programCall (name : String) (a : Args) : Eval Datum := do
  match name with
  | "safe_int" | "safe_str" | "safe_bool" | "safe_float" | "IsNum" =>
    let [some d] ← a.bind? 0 1 [if name == "IsNum" then "str" else "object"] | throw .wrongKind
    coerced name d
  | "getvaluable" | "getlist" => use name ["sprite", "id"] 2
  | "setvaluable" => use name ["sprite", "id", "obj"] 3
  | "S_eval" => use name ["sprite", "flag"] 2
  | "runcode" => use name ["sprite", "flag", "should_next"] 2
  | _ => throw .wrongKind
where
  use (name : String) (names : List String) (needed : Nat) : Eval Datum := do
    ofAnswer (← ask (.use name (← placedArgs a names needed)))

/-- Calls a function of a module. -/
def call (module name : String) (a : Args) : Eval Datum := do
  match module, name, a.placed with
  | "", name, _ => programCall name a
  | "math", name, _ => Math.call name a
  | "json", name, _ => Json.call name a
  | "os.path", "exists", [d] => return .bool (files.contains (← d.needText))
  | "time", "time", [] => return .float (← Eval.ofExcept (← ask .clock))
  | "time", "sleep", [d] =>
    Eval.ofExcept (← ask (.pause (← Math.real d)))
    return .null
  | "random", "uniform", [x, y] =>
    let share ← binary "/" (.int (Int.fmod (← ask .chance) 1000)) (.int 1000)
    binary "+" x (← binary "*" (← binary "-" y x) share)
  | "random", "randint", [x, y] =>
    let k ← ask .chance
    let count ← binary "+" (← binary "-" y x) (.int 1)
    binary "+" x (← binary "%" (.int k) count)
  | "os", "getlogin", [] => return .text (← Eval.ofExcept (← ask .user))
  | "os", "listdir", _ => list (files.map .text)
  | module, name, [] => do ofAnswer (← ask (.use (module ++ "." ++ name) []))
  | _, _, _ => throw .wrongKind

end BlockStage.Expression.Module
