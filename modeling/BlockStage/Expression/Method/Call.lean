import BlockStage.Expression.Method.Fields
import BlockStage.Place

/-!
# Calling functions of values

A method of a kind takes the value as its first argument.
-/

namespace BlockStage.Expression.Method

open Eval

/-! ## Texts and bytes -/

def lookArgs (a : Args) : Eval Args := do
  let placed ← a.placed.mapM seen
  let named ← a.named.mapM fun (k, d) => do return (k, ← seen d)
  return { placed := placed, named := named }

/-- Calls a method of a text. -/
def text (s name : String) (a : Args) : Eval Datum := do
  match name, a.placed, a.named with
  | "format", _, _ => Fields.filled s a
  | "join", [d], [] =>
    settle (← Text.call? s name { placed := [.list (← elements d)] })
  | _, _, _ => settle (← Text.call? s name (← lookArgs a))

def bytes (codes : List Nat) (name : String) (a : Args) : Eval Datum := do
  settle (← Bytes.call? codes name (← lookArgs a))

/-! ## Places -/

def pair (p : Int × Int) : Datum := .tuple [.int p.1, .int p.2]

/-- Calls a method of a `Position`. -/
def place (d : Datum) (fields : List (String × Datum)) (name : String) (a : Args) : Eval Datum := do
  let coordinate (name : String) : Eval Datum :=
    (fields.lookup name).elim (throw .missingMember) pure
  match name with
  | "scratch" =>
    a.none?
    return .tuple [← coordinate "x", ← coordinate "y"]
  | "pygame" | "show" =>
    a.none?
    let x ← toValue (← coordinate "x")
    let y ← toValue (← coordinate "y")
    return pair (← BlockStage.Frame.convert BlockStage.Frame.script BlockStage.Frame.screen x y)
  | name => use d name a

/-! ## All values -/

/-- The arguments of a method of a sprite. -/
def spriteArgs (a : Args) : Eval (List Value) := do
  match a.placed, a.named with
  | placed, [] => placed.mapM toValue
  | [], [("flag", d)] | [], [("dict1", d)] | [], [("flag2", d)] => return [← toValue d]
  | _, _ => throw .wrongKind

/-- Calls a method of a value. -/
def own (d : Datum) (name : String) (a : Args) : Eval Datum := do
  let among (names : List String) (r : Eval Datum) : Eval Datum :=
    if names.contains name then r else use d name a
  match d with
  | .sprite _ =>
    if name == "__getattribute__" then return ← member d (← (← a.one?).needText)
    ofAnswer (← ask (.invoke d name (← spriteArgs a)))
  | .one (.text s) => among Text.names (text s name a)
  | .bytes codes => among Bytes.names (bytes codes name a)
  | .one (.num (.int n)) => among Number.intNames do Number.int? n name (← lookArgs a)
  | .one (.bool b) =>
    among Number.intNames do Number.int? (if b then 1 else 0) name (← lookArgs a)
  | .ref tag r =>
    match tag, ← fetch r with
    | .list, .list items => among Row.listNames (Row.list r items name a)
    | .record, .record fields => among Record.names (Record.call r fields name a)
    | .buffer, .buffer codes =>
      among Bytes.names (bytes codes name a)
    | .item "Position", .item _ fields => place d fields name a
    | _, _ => use d name a
  | d => use d name a

def sample? (kind : String) : Option Datum :=
  match kind with
  | "str" => some (.text "")
  | "int" => some (.int 0)
  | "bool" => some (.bool false)
  | "bytes" => some (.bytes [])
  | _ => none

/-- Calls a method of a kind. -/
def ofKind (kind name : String) (a : Args) : Eval Datum := do
  if isOfKind kind name then
    if let some d := sample? kind then return ← own d name a
  let d :: rest := a.placed | throw .wrongKind
  if !(Datum.lineage d.kind).contains kind then throw .wrongKind
  own d name { a with placed := rest }

end BlockStage.Expression.Method
