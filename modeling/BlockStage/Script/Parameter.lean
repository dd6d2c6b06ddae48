import BlockStage.Script.Written

/-!
# Parameters written in literals

Where the ids and the names of the parameters are literals, such as `["a", "b"]`, an argument is bound
without evaluating anything. Ids are brought to upper case each time, and stay so.
-/

namespace BlockStage

open Expression (Datum Expr Ref)

namespace Expression

mutual

/-- What a literal stands for: a text, a number, or a row of literals. -/
def Expr.literal? : Expr → Option Datum
  | .datum v => some (.one v)
  | .row .list items => (Expr.literals? items).map (Datum.row .list)
  | .row .tuple items => (Expr.literals? items).map (Datum.row .tuple)
  | _ => none

def Expr.literals? : List Expr → Option (List Datum)
  | [] => some []
  | e :: rest => do return (← e.literal?) :: (← Expr.literals? rest)

end

/-- What a literal text stands for, or why it cannot be read. -/
def literal? (s : String) : Option (Except Fault Datum) :=
  match parse? s with
  | .error f => some (.error f)
  | .ok e => e.literal?.map .ok

/-- A text in upper case, character by character. -/
def upperCase (s : String) : String :=
  String.join (s.toList.map fun c => Text.upper (String.singleton c))

end Expression

namespace Parameter

open Expression (literal? upperCase)

/-! ## Which prototypes -/

/-- A text that stays a literal when it is brought to upper case a number of times. -/
def areLiteralIds : Nat → String → Bool
  | 0, _ => true
  | n + 1, s => (literal? (upperCase s)).isSome && areLiteralIds n (upperCase s)

/-- A field is missing, or is a text of a kind. -/
def fits (fields : Table Value) (key : String) (kind : String → Bool) : Bool :=
  match Table.get? fields key with
  | some (.text s) => kind s
  | some _ => false
  | none => true

/-- A `mutation` whose lists are literals. -/
def isPlain (n : Nat) : Value → Bool
  | .record fields =>
    fits fields "argumentids" (areLiteralIds n) && fits fields "argumentnames" fun s => (literal? s).isSome
  | .object _ _ _ | .place _ _ => false
  | _ => true

/-- An attribute is missing, or the table that a sprite was made with. -/
def isOwn (s : Sprite) (key : String) : Bool :=
  match Table.get? s.fields key with
  | some .shared | none => true
  | some _ => false

/-- The parameters of a prototype are written in literals, also after some arguments were bound. -/
def areLiteral (w : World) (me : Nat) (prototype : String) (n : Nat) : Bool :=
  isOwn (w.sprite me) "blocks" && isOwn (w.sprite me) Sprite.argumentsKey &&
    match Table.get? (w.kit (w.sprite me).kit).blocks prototype with
    | some b => ((Table.get? b.fields "mutation").map (isPlain n)).getD true
    | none => true

/-! ## Binding -/

/-- What a prototype says of its parameters. -/
def mutation? (w : World) (me : Nat) (prototype : String) : Except Fault (Table Value) := do
  match ← (← w.block? me (.text prototype)).get? "mutation" with
  | .record fields => return fields
  | _ => throw .wrongKind

/-- A text of a `mutation`. -/
def text? (fields : Table Value) (key : String) : Except Fault String := do
  match ← (Value.record fields).field? key with
  | .text s => return s
  | _ => throw .wrongKind

/-- What a text of a `mutation` stands for. -/
def said? (s : String) : Except Fault Datum := (literal? s).getD (.error .wrongKind)

/-- The names of the parameters with their ids. -/
def pairs? (ids names : Datum) : Except Fault (List (Datum × Datum)) := do
  let pairs := (← ids.elements?).zip (← names.elements?)
  pairs.forM fun p => p.1.needName
  return pairs

/-- The name of a parameter; of names with the same id it is the last. -/
def name? (ids : String) (fields : Table Value) (key : String) : Except Fault Datum := do
  let ids ← said? ids
  let names ← said? (← text? fields "argumentnames")
  match (← pairs? ids names).reverse.find? fun p => p.1.alike (.text key) with
  | some p => return p.2
  | none => throw (.raised "KeyError" "" 0)

/-- Where a prototype says what its parameters are. -/
def place (w : World) (me : Nat) (prototype : String) : Ref :=
  ⟨.kit (w.sprite me).kit "blocks", [.name prototype, .name "mutation"]⟩

/-- Binds an argument to the name of its parameter. -/
def bindOne (me : Nat) (prototype key : String) (value : Value) : Act Unit := do
  let w ← Act.look
  let fields ← mutation? w me prototype
  let ids := upperCase (← text? fields "argumentids")
  .ask (.write (place w me prototype) (.record (Table.put fields "argumentids" (.text ids)))) .ret
  let name ← name? ids fields key
  let _ ← (w.sprite me).bindings?
  name.needName
  .ask (.bind me w.current name.toValue value) .ret

/-- Binds the arguments of a call. -/
def bindAll (me : Nat) (prototype : String) : Arguments → Act Unit
  | [] => return ()
  | (key, value) :: rest => do
    bindOne me prototype key value
    bindAll me prototype rest

end Parameter

end BlockStage
