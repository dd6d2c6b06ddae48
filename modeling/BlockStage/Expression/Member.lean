import BlockStage.Expression.Method.Usage
import BlockStage.Expression.Module.Names

/-!
# Members

The functions of a kind can also be asked of the kind itself, and then take the value as their first
argument. A kind that an expression has made has its own members, then those of the kinds that it is
derived from.
-/

namespace BlockStage.Expression

namespace Datum

/-! ## Parts with a name -/

/-- The parts of a value that have a name. -/
def namedParts : Datum → List (String × Datum)
  | .one (.num (.float x)) => [("real", .float x), ("imag", .float 0.0)]
  | .complex re im => [("real", .float re), ("imag", .float im)]
  | .builtin s => [("__name__", .text s)]
  | .thing "Thread" _ 0 => [("name", .text "MainThread")]
  | .thing "ThreadManager" _ _ => [("threads", .ref .list ⟨.kept "threads", []⟩)]
  | .one v =>
    match v.whole? with
    | some n => [("real", .int n), ("imag", .int 0)]
    | none => []
  | _ => []

def field? (d : Datum) (name : String) : Option Datum := d.namedParts.lookup name

def hasMethod (d : Datum) (name : String) : Bool :=
  Method.has d.kind name || (d matches .method _ _ | .builtin _) && name == "__call__"

end Datum

def Datum.kindDatum (d : Datum) : Datum := .builtin d.kind

def isMissing (f : Fault) : Bool := failureName f == "AttributeError"

namespace Eval

/-! ## Members of what an expression has made -/

def placeNames : List String := ["pygame", "scratch", "show"]

def placeFrame? (name : String) : Option Datum :=
  match name with
  | "SCRATCH" => some (.tuple [.int (-240), .int 240, .int (-180), .int 180])
  | "PYGAME" | "SHOW" => some (.tuple [.int 0, .int 960, .int 720, .int 0])
  | _ => none

/-- A member of what an expression has made. -/
def itemMember (d : Datum) (r : Ref) (name : String) : Eval Datum := do
  let .item kind fields ← fetch r | throw .missingMember
  if let some own := fields.lookup name then return own
  match name with
  | "__class__" => return .builtin kind
  | "__dict__" => namedRecord fields
  | name =>
    if kind == "Position" then
      if let some frame := placeFrame? name then return frame
      if placeNames.contains name then return .method d name
    throw .missingMember

/-- A member of a made kind. -/
def kindMember (k : Datum) (r : Ref) (name : String) : Eval Datum := do
  let .kind own _ _ ← fetch r | throw .missingMember
  match name with
  | "__name__" => return .text own
  | "__class__" => return .builtin "type"
  | name =>
    let kinds ← kindsOf kindDepth k
    if let some x ← findIn name kinds then return x
    let gives (k : Datum) : Bool := if let .builtin s := k then Method.has s name else false
    let some k := kinds.find? gives | throw .missingMember
    return .method k name

def builtinKindMember (kind name : String) : Eval Datum := do
  if name == "__class__" then return .builtin "type"
  if kind == "Sprite" then return ← ofExcept (← ask (.member (.builtin kind) name))
  if kind == "Position" then
    if let some frame := placeFrame? name then return frame
  if (if kind == "Position" then placeNames.contains name else Method.has kind name) then
    return .method (.builtin kind) name
  throw .missingMember

/-! ## Members of values -/

/-- `d.name` -/
def member (d : Datum) (name : String) : Eval Datum := do
  match d with
  | .sprite _ => ofExcept (← ask (.member d name))
  | .module "builtins" =>
    let some x := Module.everywhere? name | throw .missingMember
    return x
  | .module m =>
    if let some x := Module.member? m name then return x
    if m != "keymap" || name != "keymap" then throw .missingMember
    namedRecord (Keys.codes.map fun (s, n) => (s, .int n))
  | .ref (.item _) r => itemMember d r name
  | .ref (.kind _) r => kindMember d r name
  | d =>
    if let some x := d.field? name then return x
    if let .builtin kind := d then
      if Datum.isKind kind then return ← builtinKindMember kind name
    if name == "__class__" then return d.kindDatum
    if d.hasMethod name then return .method d name
    throw .missingMember

def member? (d : Datum) (name : String) : Eval (Option Datum) := do
  try return some (← member d name)
  catch f => if isMissing f then return none else throw f

/-- `d.name = v` -/
def setMember (d : Datum) (name : String) (v : Datum) : Eval Unit := do
  match d with
  | .sprite _ => ofExcept (← ask (.setMember d name (some (← toValue v))))
  | d => if d matches .builtin _ then throw .wrongKind else throw .missingMember

end Eval

end BlockStage.Expression
