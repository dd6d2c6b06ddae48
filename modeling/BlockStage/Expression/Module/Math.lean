import BlockStage.Expression.Conversion

/-!
# Functions of numbers by name

A function fails where it has no value, and where its value is too large for a double.
-/

namespace BlockStage.Expression.Module.Math

open Eval

def real (d : Datum) : Eval Float := do (← d.number?).toFloat?

/-! ## Functions of one double -/

def pi : Float := 2 * Float.asin 1

/-- The functions that always have a value. -/
def tame : List (String × (Float → Float)) := [
  ("sin", Float.sin), ("cos", Float.cos), ("tan", Float.tan), ("asin", Float.asin),
  ("acos", Float.acos), ("atan", Float.atan), ("sqrt", Float.sqrt), ("fabs", Float.abs),
  ("degrees", fun x => x * (180 / pi)), ("radians", fun x => x * (pi / 180))]

/-- A function of one double. -/
def applied? (f : Float → Float) (grows : Bool) (x : Float) : Except Fault Float :=
  let r := f x
  if r.isNaN && !x.isNaN then .error .badValue
  else if r.isInf && x.isFinite then .error (if grows then .overflow else .badValue)
  else .ok r

/-! ## All functions -/

/-- Calls a function of `math`. -/
def call (name : String) (a : Args) : Eval Datum := do
  if let some f := tame.lookup name then return .float (← applied? f false (← real (← a.one?)))
  match name with
  | "floor" | "ceil" | "trunc" => toward name (← a.one?)
  | "exp" => return .float (← applied? Float.exp true (← real (← a.one?)))
  | _ => throw .wrongKind

end BlockStage.Expression.Module.Math
