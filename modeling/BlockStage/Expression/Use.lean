import BlockStage.Expression.Member

/-!
# Uses of values

Operators on values that may refer to something, and special methods.
-/

namespace BlockStage.Expression.Eval

/-! ## Operators -/

/-- An operator between two values. -/
def binary (op : String) (a b : Datum) : Eval Datum := do
  let x ← open? a
  let isTemplate := x matches .one (.text _) | .bytes _ | .buffer _
  let y ← if op == "%" && isTemplate then look true lookDepth [] b else open? b
  settle (← Datum.binary? op x y)

/-- A comparison. -/
def related (r : Relation) (a b : Datum) : Eval Bool := do
  match r with
  | .eq => same a b
  | .ne => return !(← same a b)
  | .lt => before false a b
  | .le => before true a b
  | .gt => before false b a
  | .ge => before true b a
  | .within => contains b a
  | .notWithin => return !(← contains b a)
  | .identical => return a.identical b
  | .notIdentical => return !(a.identical b)

/-! ## Numbers -/

def hashPrime : Nat := Binary.twoTo 61 - 1

def hashInt (n : Int) : Int :=
  let r : Int := (n.natAbs % hashPrime : Nat)
  let r := if n < 0 then -r else r
  if r = -1 then -2 else r

/-- `hash(d)`, for numbers. -/
def hashOf (d : Datum) : Eval Int := do
  d.needName
  match d with
  | .one (.num (.int k)) => return hashInt k
  | .one (.bool b) => return if b then 1 else 0
  | d => return (((d.quoted?).toOption.getD "").hash.toNat : Int)

/-- `math.floor` and the like. -/
def toward (side : String) (d : Datum) : Eval Datum := do
  match ← d.number? with
  | .int n => return .int n
  | .float x =>
    let x := match side with
      | "floor" => x.floor
      | "ceil" => x.ceil
      | _ => x
    return .int (← Binary.truncate? x)

/-! ## Uses as functions -/

def magnitude (d : Datum) : Eval Datum := do
  match d with
  | .complex re im => return .float (← Complex.abs? ⟨re, im⟩)
  | c =>
    let .ok n := c.number? | throw .wrongKind
    return .one (.num n.abs)

/-- A special method by its name. -/
def use (d : Datum) (name : String) (a : Args) : Eval Datum := do
  match name with
  | "__index__" =>
    a.none?
    return .int (← d.needWhole)
  | "__len__" =>
    a.none?
    return .int (← length d)
  | "__getitem__" => part d (← a.one?)
  | "__setitem__" =>
    let (i, v) ← a.two?
    setPart d i v
    return .null
  | "__delitem__" =>
    dropPart d (← a.one?)
    return .null
  | "__contains__" => return .bool (← contains d (← a.one?))
  | "__call__" => call d a
  | _ => throw .wrongKind

end BlockStage.Expression.Eval
