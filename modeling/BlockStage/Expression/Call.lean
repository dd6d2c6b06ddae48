import BlockStage.Expression.Operator

/-!
# Arguments of calls

The arguments of a call, by place and by name, and how functions take them.
-/

namespace BlockStage.Expression

/-- The arguments of a call. -/
structure Args where
  placed : List Datum := []
  named : List (String × Datum) := []

namespace Args

/-- Refuses arguments with other names than these. -/
def onlyNamed (a : Args) (names : List String) : Except Fault Unit :=
  if a.named.all fun p => names.contains p.1 then .ok () else .error .wrongKind

/-- The arguments for parameters with these names. The first `placedOnly` cannot be given by name, and the first
`needed` have to be given. -/
def bind? (a : Args) (placedOnly needed : Nat) (names : List String) :
    Except Fault (List (Option Datum)) := do
  if names.length < a.placed.length then throw .wrongKind
  a.onlyNamed (names.drop (max placedOnly a.placed.length))
  let found := names.zipIdx.map fun (name, i) => a.placed[i]? <|> a.named.lookup name
  if (found.take needed).any Option.isNone then throw .wrongKind
  return found

/-- The arguments by place, if none is given by name. -/
def plain? (a : Args) : Except Fault (List Datum) :=
  if a.named.isEmpty then .ok a.placed else .error .wrongKind

def none? (a : Args) : Except Fault Unit := do
  let [] ← a.plain? | throw .wrongKind

def one? (a : Args) : Except Fault Datum := do
  let [d] ← a.plain? | throw .wrongKind
  return d

def two? (a : Args) : Except Fault (Datum × Datum) := do
  let [d, e] ← a.plain? | throw .wrongKind
  return (d, e)

def optional? (a : Args) : Except Fault (Option Datum) := do
  match ← a.plain? with
  | [] => return none
  | [d] => return some d
  | _ => throw .wrongKind

/-- An argument, and another that may be left out. -/
def oneAnd? (a : Args) : Except Fault (Datum × Option Datum) := do
  match ← a.plain? with
  | [d] => return (d, none)
  | [d, e] => return (d, some e)
  | _ => throw .wrongKind

end Args

namespace Datum

def count? (d : Datum) : Except Fault Int := do
  let n ← d.needWhole
  if Value.countLimit < n || n < -Value.countLimit - 1 then throw .overflow
  return n

def width? (d : Datum) : Except Fault Nat := do
  let n ← d.count?
  if (Value.sizeLimit : Int) < n then throw .outOfMemory
  return n.toNat

def byte? (d : Datum) : Except Fault Nat := do
  let n ← d.needWhole
  if n < 0 || 256 ≤ n then throw .badValue
  return n.toNat

end Datum

end BlockStage.Expression
