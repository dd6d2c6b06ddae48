import BlockStage.Value.Display

/-!
# Coercions

Blocks take any value where they need a number, a text or a truth value.
-/

namespace BlockStage.Value

/-- `safe_int`: a text is read as an integer, then as a double that loses its fraction; what is neither is zero. -/
def asInt (v : Value) : Int :=
  match v.toInt? with
  | .ok n => n
  | .error _ =>
    match v.toFloat? with
    | .ok x =>
      match Binary.truncate? x with
      | .ok n => n
      | .error _ => 0
    | .error _ => 0

/-- `safe_str` -/
def asText (v : Value) : String :=
  match v.display? with
  | .ok s => s
  | .error _ => ""

/-- `safe_bool`: the texts of truth values have the truth value they show. -/
def asBool (v : Value) : Bool :=
  match v with
  | .text s => if s = "None" || s = "False" then false else !s.isEmpty
  | v => v.holds

/-- `safe_float`, zero for what is no double. Fails on an integer that is too large for a double and too long to
be shown. -/
def asFloat? (v : Value) : Except Fault Float :=
  match v.toFloat? with
  | .ok x => .ok x
  | .error _ => v.display?.map fun _ => 0.0

/-- `str(b)` -/
def truth (b : Bool) : Value := .text (if b then "True" else "False")

/-- `IsNum` -/
def looksNumeric? : Value → Except Fault Bool
  | .text s => .ok (Reading.looksNumeric s)
  | _ => .error .missingMember

/-! ## Coercions by name -/

/-- Names beside the coercions, for what cannot be called. -/
def inertNames : List String :=
  ["logging", "__name__", "__doc__", "__package__", "__loader__", "__spec__", "__file__", "__cached__",
    "__builtins__", "__dict__", "__repr__", "__str__", "__hash__", "__dir__", "__sizeof__", "__reduce__",
    "__reduce_ex__", "__init_subclass__", "__setattr__", "__new__", "__format__"]

def openNames : List String :=
  ["__eq__", "__ne__", "__lt__", "__le__", "__gt__", "__ge__", "__subclasshook__"]

def coercions : List String := ["safe_int", "safe_str", "safe_bool", "safe_float", "IsNum"]

/-- A coercion by its name. -/
def coerce? (v : Value) (name : String) : Except Fault Value :=
  match name, v with
  | "safe_int", v => .ok (.num (.int v.asInt))
  | "safe_str", v => .ok (.text v.asText)
  | "safe_bool", v => .ok (.bool v.asBool)
  | "safe_float", v => v.asFloat?.map fun x => .num (.float x)
  | "IsNum", v => v.looksNumeric?.map .bool
  | "__class__", .text _ => .ok (.object "module" "" 0)
  | "__init__", .text _ => .ok .null
  | "__getattribute__", .text other =>
    if coercions.contains other then .ok (.object "function" other 0)
    else if other = "logging" then .ok (.object "module" other 0)
    else if inertNames.contains other || openNames.contains other then
      .ok (.object "method-wrapper" other 0)
    else .error .missingMember
  | "__class__", _ | "__init__", _ | "__getattribute__", _ => .error .wrongKind
  | name, _ =>
    if openNames.contains name then .ok (.object "NotImplementedType" "NotImplemented" 0)
    else if inertNames.contains name then .error .wrongKind
    else .error .missingMember

end BlockStage.Value
