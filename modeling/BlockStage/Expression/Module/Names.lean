import BlockStage.Expression.Datum
import BlockStage.Keys

/-!
# Modules

The modules, and the names of the program. Its functions are those of a module without a name.
-/

namespace BlockStage.Expression.Module

def function (module name : String) : Datum := .method (.module module) name

/-! ## Functions -/

def mathNames : List String := listed [
  "acos asin atan ceil cos degrees exp fabs floor radians sin sqrt tan trunc"]

def programNames : List String := listed [
  "IsNum S_eval blitRotate check_collision drawlist drawtext drawvariable getlist getvaluable runcode",
  "safe_bool safe_float safe_int safe_str setvaluable"]

/-- The functions of a module. -/
def functions : String → List String
  | "" => programNames
  | "math" => mathNames
  | "json" => ["dumps"]
  | "time" => ["sleep", "time"]
  | "random" => ["randint", "uniform"]
  | "os" => ["getlogin", "listdir"]
  | "os.path" => ["exists"]
  | "threading" => ["current_thread"]
  | _ => []

/-! ## Values -/

/-- A value of a module. -/
def constant? (module name : String) : Option Datum :=
  match module, name with
  | "math", "pi" => some (.float (2 * Float.asin 1))
  | "math", "e" => some (.float 2.718281828459045)
  | "math", "inf" => some (.float (1.0 / 0.0))
  | "math", "nan" => some (.float Binary.notANumber)
  | "os", "path" => some (.module "os.path")
  | "os", "name" => some (.text "posix")
  | "os", "sep" => some (.text "/")
  | "sys", "maxsize" => some (.int 9223372036854775807)
  | "sys", "platform" => some (.text "linux")
  | _, _ => none

/-! ## Names that are defined everywhere -/

def commonNames : List String := listed [
  "__import__ abs all any ascii callable eval exec exit format getattr globals hasattr hash id input",
  "isinstance iter len locals next open pow print quit repr round setattr sorted vars"]

/-- A name that is defined everywhere. -/
def everywhere? (name : String) : Option Datum :=
  if Datum.kinds.contains name || commonNames.contains name then some (.builtin name)
  else
    match name with
    | "Ellipsis" => some .ellipsis
    | "__debug__" => some (.bool true)
    | "__builtins__" => some (.module "builtins")
    | _ => none

/-! ## Names of the program -/

/-- The modules. -/
def all : List String := listed [
  "math json time random os os.path sys logging threading",
  "traceback zipfile builtins typing pygame keymap variable position rotate collision drawtext mouse"]

/-- The names of the program that never change. -/
def programConstants : List (String × Datum) :=
  each ["json pygame threading traceback"] .module ++ each ["sin cos radians"] (function "math") ++
    each ["math logging random zipfile os time sys"] .module ++ [
      ("List", .thing "_SpecialGenericAlias" "typing.List" 0),
      ("Tuple", .thing "_TupleType" "typing.Tuple" 0),
      ("Literal", .thing "_TypedCacheSpecialForm" "typing.Literal" 0)] ++
    each ["drawtext drawvariable drawlist blitRotate safe_int safe_str safe_bool safe_float IsNum",
      "check_collision"] (function "") ++ each ["Position ThreadManager"] .builtin ++ [
      ("thread_manager", .thing "ThreadManager" "<__main__.ThreadManager object>" 1),
      ("sleep", function "time" "sleep"), ("FPS", .int 50), ("TPS", .int 50),
      ("STAGE_SIZE", .tuple [.int 960, .int 720]),
      ("STAGE_SHOW_SIZE", .tuple [.int 960, .int 720])] ++
    each ["S_eval getvaluable setvaluable getlist"] (function "") ++
    each ["Sprite Monitor"] .builtin ++ each ["runcode"] (function "") ++ [
      ("show_screen", .thing "Surface" "<Surface(960x720)>" 1),
      ("screen", .thing "Surface" "<Surface(960x720)>" 2), ("clock", .thing "Clock" "<Clock>" 1)]
where
  each (lines : List String) (f : String → Datum) := (listed lines).map fun s => (s, f s)

/-- A member of a module. -/
def member? (module name : String) : Option Datum :=
  constant? module name <|>
    if (functions module).contains name then some (function module name)
    else if name == "__name__" then some (.text module)
    else none

end BlockStage.Expression.Module
