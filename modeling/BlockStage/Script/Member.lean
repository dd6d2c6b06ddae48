import BlockStage.Script.Opcode
import BlockStage.Script.Picture

/-!
# Members of sprites

What a name means on a sprite: an attribute, which hides all else and cannot be called, a block, or
something else that a sprite can do.
-/

namespace BlockStage

/-! ## Attributes

An object is made of a record by taking over its entries as attributes, from the first to the last.
A few names stand for the object itself and cannot be taken over. -/

namespace Attributes

/-- Takes one attribute over. The name that stands for all attributes replaces them. -/
def put (t : Table Value) (key : String) (v : Value) : Except Fault (Table Value) :=
  match key, v with
  | "__class__", _ => .error .wrongKind
  | "__weakref__", _ => .error .missingMember
  | "__dict__", .record fields => .ok fields
  | "__dict__", _ => .error .wrongKind
  | key, v => .ok (Table.put t key v)

/-- The attributes that `Sprite.__init__` takes over. -/
def ofFields (fields : List (String × Value)) : Except Fault (Table Value) :=
  fields.foldlM (fun t (key, v) => put t key v) []

end Attributes

/-- What every object can do. -/
inductive Common where
  | initialise
  | create
  /-- To compare with something else, which a sprite leaves open. -/
  | compare
  /-- To be asked about its kind, which it leaves open. -/
  | classify
  | derive
  | format
  | getAttribute
  | setAttribute
  | deleteAttribute
  | state
  | extent
  | introspect
  | refuse
  deriving DecidableEq, Repr

namespace Common

/-- A special method by its name. -/
def ofName? : String → Option Common
  | "__init__" => some initialise
  | "__class__" => some create
  | "__eq__" | "__ne__" | "__lt__" | "__le__" | "__gt__" | "__ge__" => some compare
  | "__subclasshook__" => some classify
  | "__init_subclass__" => some derive
  | "__format__" => some format
  | "__getattribute__" => some getAttribute
  | "__setattr__" => some setAttribute
  | "__delattr__" => some deleteAttribute
  | "__getstate__" => some state
  | "__sizeof__" => some extent
  | "__dir__" | "__hash__" | "__reduce__" => some introspect
  | "__new__" | "__reduce_ex__" => some refuse
  | _ => none

def leftOpen : Value := .object "NotImplementedType" "NotImplemented" 0

end Common

/-- What a name means on a sprite. -/
inductive Member where
  /-- An attribute, which is not something to do. -/
  | property
  | block (opcode : Opcode)
  | touches
  | enterCustom
  | copy
  | draw
  | describe
  | common (c : Common)
  deriving DecidableEq, Repr

namespace Member

def always : List String := ["__dict__", "__doc__", "__module__", "__weakref__"]

def isAttribute (s : Sprite) (name : String) : Bool :=
  Table.has s.fields name || always.contains name

/-- `getattr` on a sprite. -/
def ofName? (s : Sprite) (name : String) : Option Member :=
  if isAttribute s name then some .property
  else
    match name with
    | "collision" => some .touches
    | "procedure" => some .enterCustom
    | "copy" => some .copy
    | "draw" => some .draw
    | "__str__" | "__repr__" => some .describe
    | name => ((Opcode.ofName? name).map .block).orElse fun _ => (Common.ofName? name).map .common

def sprite (w : World) (i : Nat) : Value :=
  .object "Sprite" ((w.sprite i).title?.toOption.getD "") i

/-- `vars` of a sprite. -/
def attributes (w : World) (me : Nat) : Value :=
  .record ((w.sprite me).fields.map fun (key, v) =>
    (key, (w.attribute? me key).toOption.getD v))

/-- The value of a name on a sprite. -/
def value? (w : World) (me : Nat) (name : String) : Except Fault Value :=
  let s := w.sprite me
  if Table.has s.fields name then w.attribute? me name
  else
    match name, ofName? s name with
    | "__dict__", _ => .ok (attributes w me)
    | "__class__", _ => .ok (.object "type" "<class 'Sprite'>" 0)
    | "__weakref__", _ => .ok .null
    | _, some _ => .ok (.object "method" name me)
    | _, none => .error .missingMember

/-- Gives a sprite attributes. A fault keeps those before it. -/
def assignAll (me : Nat) : List (String × Value) → Act Unit
  | [] => return ()
  | (key, v) :: rest => do
    let fields ← Attributes.put ((← Act.look).sprite me).fields key v
    .ask (.replace me fields) .ret
    assignAll me rest

/-- What every object can do, on a sprite. -/
def useCommon (me : Nat) : Common → List Value → Act Value
  | .initialise, [given] => do
    assignAll me (← given.fields?)
    .ask (.reset me) .ret
    return .null
  | .create, [given] => do
    let fields ← Attributes.ofFields (← given.fields?)
    let made ← .ask (.make fields) .ret
    return sprite (← Act.look) made
  | .compare, [_] => return Common.leftOpen
  | .classify, _ => return Common.leftOpen
  | .derive, [] => return .null
  | .format, [.text ""] => return .text (← ((← Act.look).sprite me).title?)
  | .getAttribute, [.text name] => do value? (← Act.look) me name
  | .setAttribute, [.text key, v] => do
    assignAll me [(key, v)]
    return .null
  | .deleteAttribute, [.text name] => do
    let s := (← Act.look).sprite me
    if Table.has s.fields name then .ask (.drop me name) .ret
    else if name = "__dict__" then .ask (.replace me []) .ret
    else if name = "__class__" then throw .wrongKind
    else throw .missingMember
    return .null
  | .state, [] => return attributes (← Act.look) me
  | .extent, [] => return Value.int 24
  | .introspect, [] => return .object "tuple" "" 0
  | _, _ => throw .wrongKind

/-- Calls a member with arguments. -/
def invoke (me : Nat) : Member → List Value → Act Value
  | .block opcode, [] => do
    if opcode.flagOptional then opcode.act me .null else throw .wrongKind
  | .block opcode, [flag] => opcode.act me flag
  | .touches, [what] => do
    if what.isText "_mouse_" || what.isText "_edge_" then
      return .bool (← Sensing.touches me what)
    else throw .missingMember
  | .enterCustom, [flags, given] => do Custom.enterEvaluating me flags (← given.fields?)
  | .copy, [] => do
    let made ← .ask (.copy me) .ret
    return sprite (← Act.look) made
  | .draw, [] => do
    Stage.drawSprite me
    return .null
  | .describe, [] => return .text (← ((← Act.look).sprite me).title?)
  | .common c, args => useCommon me c args
  | _, _ => throw .wrongKind

end Member

end BlockStage
