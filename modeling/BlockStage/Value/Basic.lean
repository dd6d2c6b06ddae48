import BlockStage.Number.Basic
import BlockStage.Number.Reading
import BlockStage.Table

/-!
# Values

What a project file holds and what blocks hand to each other: the kinds of JSON, with integers and
doubles kept apart, a place on the stage, and things that are only handed on. An operation says which
kinds it takes, and fails with `wrongKind` on the others.
-/

namespace BlockStage

/-- What a block takes and returns. -/
inductive Value where
  | null
  | bool (b : Bool)
  | num (n : Number)
  | text (s : String)
  | list (items : List Value)
  | record (fields : List (String × Value))
  | place (x y : Value)
  /-- Something that can only be handed on, with what it is, how it shows and which one it is. -/
  | object (kind shown : String) (number : Nat)
  /-- What a sprite has in common with its clones, and what the world keeps for it. -/
  | shared
  /-- An attribute that was taken away. -/
  | absent
  deriving Inhabited

namespace Value

def int (n : Int) : Value := .num (.int n)

def float (x : Float) : Value := .num (.float x)

instance : Coe String Value := ⟨.text⟩

def isNull : Value → Bool
  | .null => true
  | _ => false

/-- A number; a truth value is one. -/
def number? : Value → Except Fault Number
  | .num n => .ok n
  | .bool b => .ok (.int (if b then 1 else 0))
  | .absent => .error .missingMember
  | _ => .error .wrongKind

/-- A value that was not taken away. -/
def present? : Value → Except Fault Value
  | .absent => .error .missingMember
  | v => .ok v

/-- `bool(v)` -/
def holds : Value → Bool
  | .null => false
  | .bool b => b
  | .num n => !n.isZero
  | .text s => !s.isEmpty
  | .list items => !items.isEmpty
  | .record fields => !fields.isEmpty
  | .place _ _ => true
  | .object _ _ _ => true
  | .shared => true
  | .absent => false

/-- Whether both are the double that is no number. -/
def bothNaN : Value → Value → Bool
  | .num (.float x), .num (.float y) => x.isNaN && y.isNaN
  | _, _ => false

mutual

/-- `a == b`. Numbers are compared across their kinds, and truth values count as numbers; the order of the
fields of a record does not matter. Two places are never the same. The double that is no number differs from
itself, but not as a part of a list or a record. -/
def same : Value → Value → Bool
  | .null, .null => true
  | .bool a, .bool b => a == b
  | .num a, .num b => a.same b
  | .bool a, .num b => Number.same (.int (if a then 1 else 0)) b
  | .num a, .bool b => Number.same a (.int (if b then 1 else 0))
  | .text a, .text b => a == b
  | .list a, .list b => sameItems a b
  | .record a, .record b => a.length == b.length && sameFields a b
  | .object a s m, .object b t n => a == b && s == t && m == n
  | _, _ => false

def sameItems : List Value → List Value → Bool
  | [], [] => true
  | a :: as, b :: bs => (bothNaN a b || same a b) && sameItems as bs
  | _, _ => false

def sameFields : List (String × Value) → List (String × Value) → Bool
  | [], _ => true
  | (k, a) :: rest, other =>
    (match Table.get? other k with
      | some b => bothNaN a b || same a b
      | none => false) && sameFields rest other

end

/-- `a is b or a == b`, as for parts and names. -/
def alike (a b : Value) : Bool := bothNaN a b || same a b

def isText (v : Value) (s : String) : Bool :=
  match v with
  | .text t => t == s
  | _ => false

/-! ## Parts of a value -/

/-- Where an index points; a negative one counts from the end. -/
def position? (length : Nat) (i : Int) : Option Nat :=
  let j := if i < 0 then i + length else i
  if 0 ≤ j ∧ j < length then some j.toNat else none

/-- `v[i]` for a position. -/
def at? (v : Value) (i : Int) : Except Fault Value :=
  match v with
  | .list items =>
    match (position? items.length i).bind (items[·]?) with
    | some a => .ok a
    | none => .error .outOfRange
  | .text s =>
    match (position? s.length i).bind (s.toList[·]?) with
    | some c => .ok (.text (String.singleton c))
    | none => .error .outOfRange
  | .record _ => .error .missingKey
  | _ => .error .wrongKind

/-- `v[key]` for a name. -/
def field? (v : Value) (key : String) : Except Fault Value :=
  match v with
  | .record fields =>
    match Table.get? fields key with
    | some a => .ok a
    | none => .error .missingKey
  | _ => .error .wrongKind

/-- `v[i]`. Positions are integers or truth values. -/
def index? (v i : Value) : Except Fault Value :=
  match v, i with
  | .record fields, .text key => (Value.record fields).field? key
  | .record _, .list _ | .record _, .record _ => .error .wrongKind
  | .record _, _ => .error .missingKey
  | v, .num (.int n) => v.at? n
  | v, .bool b => v.at? (if b then 1 else 0)
  | _, _ => .error .wrongKind

/-- `table.get(key)` -/
def find? {α : Type} (table : Table α) (key : Value) : Except Fault (Option α) :=
  match key with
  | .text s => .ok (Table.get? table s)
  | .list _ | .record _ => .error .wrongKind
  | _ => .ok none

/-- Whether a value can be a key. -/
def canName : Value → Bool
  | .list _ | .record _ => false
  | _ => true

/-- `v.items()` -/
def fields? : Value → Except Fault (List (String × Value))
  | .record fields => .ok fields
  | _ => .error .missingMember

/-- `list(v)` -/
def elements? : Value → Except Fault (List Value)
  | .list items => .ok items
  | .text s => .ok (s.toList.map fun c => .text (String.singleton c))
  | .record fields => .ok (fields.map fun p => .text p.1)
  | _ => .error .wrongKind

/-- `len(v)` -/
def length? : Value → Except Fault Nat
  | .list items => .ok items.length
  | .text s => .ok s.length
  | .record fields => .ok fields.length
  | _ => .error .wrongKind

/-- Whether a text is part of another. -/
def isInfix (needle : List Char) : List Char → Bool
  | [] => needle.isEmpty
  | c :: rest => needle.isPrefixOf (c :: rest) || isInfix needle rest

/-- `part in whole` -/
def contains? (whole part : Value) : Except Fault Bool :=
  match whole, part with
  | .text s, .text t => .ok (isInfix t.toList s.toList)
  | .list items, v => .ok (items.any fun a => a.alike v)
  | .record fields, v => (find? fields v).map Option.isSome
  | _, _ => .error .wrongKind

/-! ## Order -/

mutual

/-- `a < b` -/
def lt? : Value → Value → Except Fault Bool
  | .text a, .text b => .ok (a < b)
  | .list a, .list b => ltItems? a b
  | .num a, .num b => .ok (a.lt b)
  | .bool a, .num b => .ok (Number.lt (.int (if a then 1 else 0)) b)
  | .num a, .bool b => .ok (a.lt (.int (if b then 1 else 0)))
  | .bool a, .bool b => .ok (!a && b)
  | .absent, _ | _, .absent => .error .missingMember
  | _, _ => .error .wrongKind

def ltItems? : List Value → List Value → Except Fault Bool
  | [], b => .ok (!b.isEmpty)
  | _ :: _, [] => .ok false
  | a :: as, b :: bs => if a.alike b then ltItems? as bs else lt? a b

end

mutual

/-- `a <= b` -/
def le? : Value → Value → Except Fault Bool
  | .text a, .text b => .ok (!(b < a))
  | .list a, .list b => leItems? a b
  | .num a, .num b => .ok (a.le b)
  | .bool a, .num b => .ok (Number.le (.int (if a then 1 else 0)) b)
  | .num a, .bool b => .ok (a.le (.int (if b then 1 else 0)))
  | .bool a, .bool b => .ok (!a || b)
  | .absent, _ | _, .absent => .error .missingMember
  | _, _ => .error .wrongKind

def leItems? : List Value → List Value → Except Fault Bool
  | [], _ => .ok true
  | _ :: _, [] => .ok false
  | a :: as, b :: bs => if a.alike b then leItems? as bs else le? a b

end

/-! ## Arithmetic -/

/-- An operation on numbers. -/
def arith? (op : Number → Number → Except Fault Number) (a b : Value) : Except Fault Value := do
  let x ← a.number?
  let y ← b.number?
  (op x y).map .num

/-- `a + b` -/
def add? : Value → Value → Except Fault Value
  | .text a, .text b => .ok (.text (a ++ b))
  | .list a, .list b => .ok (.list (a ++ b))
  | a, b => arith? Number.add a b

/-- `a - b` -/
def sub? : Value → Value → Except Fault Value := arith? Number.sub

/-- An integer or a truth value, as an integer. -/
def whole? : Value → Option Int
  | .num (.int n) => some n
  | .bool b => some (if b then 1 else 0)
  | _ => none

def countLimit : Int := 9223372036854775807

def sizeLimit : Nat := 1000000000

/-- How often something of a length is repeated if asked `n` times. -/
def times? (length : Nat) (n : Int) : Except Fault Nat :=
  if countLimit < n || n < -countLimit - 1 then .error .overflow
  else if length * n.toNat ≤ sizeLimit then .ok (if length = 0 then 0 else n.toNat)
  else .error .outOfMemory

/-- `a * b` -/
def mul? (a b : Value) : Except Fault Value :=
  match a, a.whole?, b, b.whole? with
  | .text s, _, _, some n | _, some n, .text s, _ => do
    if countLimit < s.length * n && n ≤ countLimit then throw .overflow
    return .text (String.join (List.replicate (← times? s.length n) s))
  | .list items, _, _, some n | _, some n, .list items, _ => do
    return .list (List.replicate (← times? items.length n) items).flatten
  | _, _, _, _ => arith? Number.mul a b

/-- `a / b` -/
def div? : Value → Value → Except Fault Value := arith? Number.div

def neg? (v : Value) : Except Fault Value := return .num (← v.number?).neg

/-- `int(v)` -/
def toInt? : Value → Except Fault Int
  | .num n => n.truncate?
  | .bool b => .ok (if b then 1 else 0)
  | .text s =>
    match Reading.int? s with
    | some n => .ok n
    | none => .error .badValue
  | .absent => .error .missingMember
  | _ => .error .wrongKind

/-- `float(v)` -/
def toFloat? : Value → Except Fault Float
  | .text s =>
    match Reading.float? s with
    | some x => .ok x
    | none => .error .badValue
  | v => do
    let n ← v.number?
    n.toFloat?

end Value

end BlockStage
