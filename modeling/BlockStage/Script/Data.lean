import BlockStage.Script.Arguments

/-!
# Data blocks

Positions in a list count from one; as a position is turned into an offset by subtracting one, position
zero is the last item and negative positions count on from there.
-/

namespace BlockStage

/-- The `data_` methods. -/
inductive Data where
  | setVariable
  | changeVariable
  | addToList
  | deleteOfList
  | deleteAllOfList
  | itemOfList
  | insertAtList
  | replaceItemOfList
  | itemNumberOfList
  | lengthOfList
  | listContainsItem
  | showList
  | hideList
  deriving DecidableEq, Repr

namespace Data

/-- The block of an opcode. -/
def ofName? : String → Option Data
  | "data_setvariableto" => some setVariable
  | "data_changevariableby" => some changeVariable
  | "data_addtolist" => some addToList
  | "data_deleteoflist" => some deleteOfList
  | "data_deletealloflist" => some deleteAllOfList
  | "data_itemoflist" => some itemOfList
  | "data_insertatlist" => some insertAtList
  | "data_replaceitemoflist" => some replaceItemOfList
  | "data_itemnumoflist" => some itemNumberOfList
  | "data_lengthoflist" => some lengthOfList
  | "data_listcontainsitem" => some listContainsItem
  | "data_showlist" => some showList
  | "data_hidelist" => some hideList
  | _ => none

/-! ## Variables -/

/-- `setvaluable`: sets a variable of the stage, or else of the sprite. -/
def assign (me : Nat) (id value : Value) : Act Unit := do
  match ← (← Act.look).visible? me .vars id, id with
  | some (holder, _), .text name => .ask (.setVariable holder name value.asText) .ret
  | some _, _ => throw .wrongKind
  | none, _ => return ()

/-! ## Lists -/

/-- A list as a block sees it: where it is kept, its id and what it is. -/
structure Found where
  holder : World.Holder
  id : String
  value : Value

/-- The list of a name: the sprite's own, or else the stage's. A clone only finds those of the stage. -/
def findList (me : Nat) (name : Value) : Act Found := do
  let w ← Act.look
  if !name.canName then throw .wrongKind
  let id ← match w.listId? me name with
    | some id => pure id
    | none =>
      match w.listId? (← w.stage?) name with
      | some id => pure id
      | none => throw .missingKey
  let (holder, value) ← w.list? me (.text id)
  return ⟨holder, id, value⟩

/-- The items of a list. -/
def Found.items? (list : Found) : Except Fault (List Value) :=
  match list.value with
  | .list items => .ok items
  | _ => .error .missingMember

/-- Replaces the items of a list. -/
def store (list : Found) (items : List Value) : Act Unit :=
  .ask (.setList list.holder list.id items) .ret

/-- Whether an offset is one that the host can hold. -/
def fitsOffset (i : Int) : Bool := -9223372036854775808 ≤ i && i < 9223372036854775808

/-- Where an item is inserted (`list.insert`): before the first or after the last if the offset lies outside. -/
def insertionPoint (length : Nat) (i : Int) : Nat :=
  (min (if i < 0 then i + length else i) length).toNat

/-- The offset that `INDEX` stands for. -/
def offset (args : Arguments) : Except Fault Int := do return (← args.need "INDEX").asInt - 1

/-- Where an offset points, which may count from the end. -/
def position (items : List Value) (i : Int) : Except Fault Nat :=
  match Value.position? items.length i with
  | some n => .ok n
  | none => .error .outOfRange

/-- Shows or hides the monitors of a list. -/
def showMonitors (id : Except Fault Value) (visible : Bool) : List Monitor → Nat → Act Unit
  | [], _ => return ()
  | m :: rest, n => do
    let own ← m.get? "id"
    if own.same (← id) then .ask (.showMonitor n visible) .ret
    showMonitors id visible rest (n + 1)

/-- What a block does with its list. -/
def onList (args : Arguments) (list : Found) : Data → Act Value
  | addToList => do
    let items ← list.items?
    store list (items ++ [.text (← args.need "ITEM").asText])
    return .null
  | deleteOfList => do
    let items ← list.items?
    let i ← offset args
    if !fitsOffset i then throw .overflow
    store list (items.eraseIdx (← position items i))
    return .null
  | deleteAllOfList => do
    let _ ← list.items?
    store list []
    return .null
  | itemOfList => do
    return .text (← list.value.at? (← offset args)).asText
  | insertAtList => do
    let items ← list.items?
    let i ← offset args
    let item := Value.text (← args.need "ITEM").asText
    if !fitsOffset i then throw .overflow
    store list (items.insertIdx (insertionPoint items.length i) item)
    return .null
  | replaceItemOfList => do
    let item := Value.text (← args.need "ITEM").asText
    let items ← match list.value with
      | .list items => pure items
      | _ => throw .wrongKind
    store list (items.set (← position items (← offset args)) item)
    return .null
  | itemNumberOfList => do
    let items ← list.value.elements?
    if items.isEmpty then return .text "0"
    let item := Value.text (← args.need "ITEM").asText
    match items.findIdx? (·.same item) with
    | some n => return .text (natText (n + 1))
    | none => return .text "0"
  | lengthOfList => return .text (natText (← list.value.length?))
  | listContainsItem => do
    return Value.truth (← list.value.contains? (.text (← args.need "ITEM").asText))
  | _ => return .null

/-- What a data block does. -/
def act (me : Nat) (flag : Value) (block : Data) : Act Value := do
  let args ← Arguments.eval me flag
  match block with
  | setVariable =>
    let id ← args.need "VARIABLE"
    assign me id (← args.need "VALUE")
    return .null
  | changeVariable =>
    let id ← args.need "VARIABLE"
    let amount ← args.need "VALUE"
    let step ← amount.asFloat?
    let old ← (← (← Act.look).variableValue? me id).asFloat?
    assign me id (.text (floatText (step + old)))
    return .null
  | showList =>
    showMonitors (args.need "LIST") true (← Act.look).monitors 0
    return .null
  | hideList =>
    showMonitors (args.need "LIST") false (← Act.look).monitors 0
    return .null
  | block => onList args (← findList me (← args.need "LIST")) block

end Data

end BlockStage
