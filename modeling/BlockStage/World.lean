import BlockStage.Block
import BlockStage.Event
import BlockStage.Expression.Store
import BlockStage.Host
import BlockStage.Pointer
import BlockStage.Roster

/-!
# The world

Everything a project is while it runs: its sprites and their clones, their data, the monitors, the
scripts that wait, and the host.

A clone is a sprite of its own, but shares blocks, variables and lists with the sprite it was made
from. They are kept as a `Kit`, and every sprite says which kit is its own.
-/

namespace BlockStage

/-- The `blocks`, `variables` and `lists` that a sprite shares with its clones. -/
structure Kit where
  blocks : Table Block
  vars : Table Value
  lists : Table Value

instance : Inhabited Kit := ⟨⟨[], [], []⟩⟩

/-- The two tables of data of a kit. -/
inductive DataKind where
  | vars
  | lists
  deriving DecidableEq, Repr

def DataKind.key : DataKind → String
  | .vars => "variables"
  | .lists => "lists"

namespace Kit

def get (k : Kit) : DataKind → Table Value
  | .vars => k.vars
  | .lists => k.lists

def put (k : Kit) (part : DataKind) (id : String) (v : Value) : Kit :=
  match part with
  | .vars => { k with vars := Table.put k.vars id v }
  | .lists => { k with lists := Table.put k.lists id v }

end Kit

/-- An entry of `argument_dict`: a parameter of a custom block, bound while a script runs. -/
structure Binding where
  thread : Nat
  name : Value
  value : Value

/-- A `Sprite`. -/
structure Sprite where
  /-- Its attributes in the order in which it got them: what the project file gives it, what it says,
  and whether it is a clone. What it shares with its clones stands in its kit, and the attribute only
  says so. -/
  fields : Table Value
  kit : Nat
  drawn : Option (Surface × Rect) := none
  arguments : List Binding := []

instance : Inhabited Sprite := ⟨{ fields := [], kit := 0 }⟩

/-- The attributes that blocks use by name. -/
inductive Attribute where
  | x
  | y
  | direction
  | size
  | visible
  | costume
  deriving DecidableEq, Repr

def Attribute.key : Attribute → String
  | .x => "x"
  | .y => "y"
  | .direction => "direction"
  | .size => "size"
  | .visible => "visible"
  | .costume => "currentCostume"

/-- The `clone_mode` of a sprite. -/
inductive CloneMode where
  | principal
  | clone
  /-- A clone that was deleted. It stays in the list, but is no longer drawn. -/
  | deleted
  deriving DecidableEq, Repr, Inhabited

namespace CloneMode

def number : CloneMode → Int
  | .principal => 0
  | .clone => 1
  | .deleted => 2

def value (m : CloneMode) : Value := Value.int m.number

def key : String := "clone_mode"

end CloneMode

namespace Sprite

/-- An attribute (`getattr`). -/
def get? (s : Sprite) (key : String) : Except Fault Value :=
  match Table.get? s.fields key with
  | some v => .ok v
  | none => .error .missingMember

/-- Gives an attribute (`setattr`). -/
def put (s : Sprite) (key : String) (v : Value) : Sprite :=
  { s with fields := Table.put s.fields key v }

/-- Takes an attribute away (`delattr`). -/
def drop (s : Sprite) (key : String) : Sprite := { s with fields := Table.erase s.fields key }

def attribute? (s : Sprite) (a : Attribute) : Except Fault Value := s.get? a.key

def set (s : Sprite) (a : Attribute) (v : Value) : Sprite := s.put a.key v

def name? (s : Sprite) : Except Fault Value := s.get? "name"

/-- The answer of `Sprite.__str__`, which has to be a text. -/
def title? (s : Sprite) : Except Fault String := do
  match ← s.name? with
  | .text name => return name
  | _ => throw .wrongKind

def isStage? (s : Sprite) : Except Fault Bool := do return (← s.get? "isStage").holds

def hasMode? (s : Sprite) (m : CloneMode) : Except Fault Bool := do
  return (← s.get? CloneMode.key).same m.value

def wordsKey : String := "words"

def argumentsKey : String := "argument_dict"

/-- A fresh sprite says nothing and has no arguments (`Sprite.__init__`). -/
def reset (s : Sprite) : Sprite :=
  { (s.put wordsKey (.text "")).put argumentsKey .shared with arguments := [] }

/-- An attribute hides a method of the same name, which then cannot be called. -/
def hides (s : Sprite) (action : String) : Bool := Table.has s.fields action

/-- Calling a method that may be hidden. -/
def can? (s : Sprite) (action : String) : Except Fault Unit :=
  if s.hides action then .error .wrongKind else .ok ()

/-- Keeps the picture that was drawn last, in `image` and `rect`. -/
def paint (s : Sprite) (image : Surface) (rect : Rect) : Sprite :=
  { (s.put "image" .shared).put "rect" .shared with drawn := some (image, rect) }

def image? (s : Sprite) : Except Fault Surface := do
  match ← s.get? "image", s.drawn with
  | .shared, some (image, _) => return image
  | _, _ => throw .missingMember

def rect? (s : Sprite) : Except Fault Rect := do
  match ← s.get? "rect", s.drawn with
  | .shared, some (_, rect) => return rect
  | _, _ => throw .missingMember

/-- Binds a parameter for a script, in place of an earlier binding of it. -/
def bind (s : Sprite) (thread : Nat) (name value : Value) : Sprite :=
  let isFor (b : Binding) : Bool := b.thread = thread && b.name.alike name
  { s with
    arguments :=
      if s.arguments.any isFor then
        s.arguments.map fun b => if isFor b then { b with value := value } else b
      else s.arguments ++ [⟨thread, name, value⟩] }

/-- All bindings, unless `argument_dict` was replaced. -/
def bindings? (s : Sprite) : Except Fault (List Binding) := do
  match ← s.get? argumentsKey with
  | .shared => return s.arguments
  | .record [] => return []
  | .record _ => throw .missingKey
  | _ => throw .wrongKind

/-- What a parameter is bound to (`argument_reporter_string_number`). -/
def argument? (s : Sprite) (thread : Nat) (name : Value) : Except Fault Value := do
  let bindings ← s.bindings?
  if !name.canName then throw .wrongKind
  match bindings.find? fun b => b.thread = thread && b.name.alike name with
  | some b => return b.value
  | none => throw .missingKey

end Sprite

/-- A `Monitor`: its attributes, its `position` and the index of its sprite. -/
structure Monitor where
  fields : Table Value
  place : Int × Int
  sprite : Nat

namespace Monitor

def get? (m : Monitor) (key : String) : Except Fault Value :=
  match Table.get? m.fields key with
  | some v => .ok v
  | none => .error .missingMember

def put (m : Monitor) (key : String) (v : Value) : Monitor :=
  { m with fields := Table.put m.fields key v }

/-- `Monitor.name` -/
def name? (m : Monitor) : Except Fault Value := do (← m.get? "params").field? "VARIABLE"

end Monitor

/-- A started `threading.Thread`: the sprite and the block that `runcode` is called with. -/
structure Thread where
  id : Nat
  sprite : Nat
  flag : Value

/-- The lines of the log. -/
inductive LogLine where
  | begun
  | displayReady
  | projectRead
  | variablesOf (sprite : String)
  | variablesRead
  | monitorsMade
  | loopEntered
  | entered (sprite opcode : String)
  | opcodeMissing (opcode : String)
  | blockFailed (flag : String) (fault : Fault)
  | tagUnknown (tag : String)
  | flagClicked
  | loudnessMissing
  | interrupted
  | loopFailed (fault : Fault)
  | ended
  | note (text : String)
  deriving DecidableEq, Repr

/-- The text of a line; `describe` words the fault of a line that reports one. -/
def LogLine.text (describe : Fault → String) : LogLine → String
  | .begun => "开始程序"
  | .displayReady => "初始化pygame"
  | .projectRead => "解析json文件"
  | .variablesOf sprite => "提取" ++ sprite ++ "的变量"
  | .variablesRead => "提取变量完成"
  | .monitorsMade => "创建显示框完成"
  | .loopEntered => "进入主循环"
  | .entered sprite opcode => "进入" ++ sprite ++ "的" ++ opcode ++ "函数"
  | .opcodeMissing opcode => "缺少函数" ++ opcode
  | .blockFailed flag fault => "执行积木" ++ flag ++ "时出错: " ++ describe fault
  | .tagUnknown tag => "未知的参数标签：" ++ tag
  | .flagClicked => "绿旗被点击"
  | .loudnessMissing => "声音检测功能暂未实现"
  | .interrupted => "键盘中断"
  | .loopFailed fault => "主循环异常: " ++ describe fault
  | .ended => "退出程序"
  | .note text => text

/-- The state of the program. -/
structure World where
  host : Host
  /-- Rounds and blocks that the running script has left. -/
  ticks : Int
  fuel : Int
  log : Array LogLine := #[]
  calls : Array Call := #[]
  /-- What was printed of a line that has not ended. -/
  printed : String := ""
  kits : List Kit := []
  sprites : List Sprite := []
  cast : List Nat := []
  clones : List Nat := []
  latest : Nat := 0
  stage : Option Nat := none
  /-- Which list id a sprite means by a name. -/
  listIds : List ((Nat × Value) × String) := []
  monitors : List Monitor := []
  done : Bool := false
  keys : Option (List Value) := none
  event : Option Event := none
  /-- Scripts that were started and have not run yet. -/
  queue : List Thread := []
  /-- The scripts that the end of the program waits for. -/
  managed : Roster := {}
  threads : Nat := 0
  /-- The script that runs; zero is the program itself. -/
  current : Nat := 0
  pointer : Pointer := default
  description : Value := .null
  /-- What the expressions of the project have made. -/
  memory : Expression.Memory := {}

namespace World

/-- Prints a text. A line is only to be seen once it has ended. -/
def print (w : World) (s : String) : World :=
  let lines := (Call.lines s.toList).map String.ofList
  let lines := (w.printed ++ lines.headD "") :: lines.tail
  { w with
    calls := w.calls ++ (lines.dropLast.map Call.print).toArray
    printed := lines.getLastD "" }

/-- Adds to the record of what the host was told. -/
def record (w : World) (c : Call) : World :=
  match c with
  | .print line => w.print (line ++ "\n")
  | c => { w with calls := w.calls.push c }

def sprite (w : World) (i : Nat) : Sprite := w.sprites.getD i default

def kit (w : World) (i : Nat) : Kit := w.kits.getD i default

/-- `sprite_list + clone_list` -/
def players (w : World) : List Nat := w.cast ++ w.clones

/-- Where a table of data is kept. -/
inductive Holder where
  | kit (k : Nat)
  /-- In an attribute of a sprite that was replaced. -/
  | own (sprite : Nat)
  deriving DecidableEq, Repr

/-- The `variables` or `lists` of a sprite. -/
def data? (w : World) (i : Nat) (part : DataKind) : Except Fault (Holder × Value) := do
  match ← (w.sprite i).get? part.key with
  | .shared => return (.kit (w.sprite i).kit, .record ((w.kit (w.sprite i).kit).get part))
  | v => return (.own i, v)

/-- The `blocks` of a sprite. -/
def blocks? (w : World) (i : Nat) : Except Fault (Table Block) := do
  match ← (w.sprite i).get? "blocks" with
  | .shared => return (w.kit (w.sprite i).kit).blocks
  | .record fields => return fields.map fun (id, v) => (id, Block.ofValue v)
  | _ => throw .wrongKind

def blocks (w : World) (i : Nat) : Table Block := (w.blocks? i).toOption.getD []

/-- `sprite.blocks[flag]` -/
def block? (w : World) (i : Nat) (flag : Value) : Except Fault Block := do
  match ← Value.find? (← w.blocks? i) flag with
  | some b => return b
  | none => throw .missingKey

def stage? (w : World) : Except Fault Nat :=
  match w.stage with
  | some i => .ok i
  | none => .error .undefinedName

/-- The first of these sprites with a name. -/
def firstNamed (w : World) (name : Value) : List Nat → Except Fault (Option Nat)
  | [] => .ok none
  | i :: rest => do
    if (← (w.sprite i).name?).same name then return some i else firstNamed w name rest

/-- The first sprite of `sprite_list` with a name. -/
def named? (w : World) (name : Value) : Except Fault (Option Nat) := firstNamed w name w.cast

def updateSprite (w : World) (i : Nat) (f : Sprite → Sprite) : World :=
  { w with sprites := w.sprites.modify i f }

def updateKit (w : World) (k : Nat) (f : Kit → Kit) : World :=
  { w with kits := w.kits.modify k f }

/-- Sets an entry of a table of data. -/
def putData (w : World) (h : Holder) (part : DataKind) (id : String) (v : Value) : World :=
  match h with
  | .kit k => w.updateKit k (·.put part id v)
  | .own i => w.updateSprite i fun s =>
      match Table.get? s.fields part.key with
      | some (.record fields) => s.put part.key (.record (Table.put fields id v))
      | _ => s

/-- The entry of a table of data that a sprite can see: one of the stage, or else its own. -/
def visible? (w : World) (i : Nat) (part : DataKind) (id : Value) :
    Except Fault (Option (Holder × Value)) := do
  let (holder, table) ← w.data? (← w.stage?) part
  if ← table.contains? id then return some (holder, ← table.index? id)
  let (holder, table) ← w.data? i part
  if ← table.contains? id then return some (holder, ← table.index? id)
  return none

/-- `getvaluable` -/
def variableValue? (w : World) (i : Nat) (id : Value) : Except Fault Value := do
  match ← w.visible? i .vars id with
  | some (_, v) => return .text v.asText
  | none => return .null

/-- `getlist` -/
def list? (w : World) (i : Nat) (id : Value) : Except Fault (Holder × Value) := do
  match ← w.visible? i .lists id, id with
  | some found, _ => return found
  | none, .text s => throw (.listNotFound s)
  | none, _ => throw .wrongKind

/-- `list_name_to_id` -/
def listId? (w : World) (i : Nat) (name : Value) : Option String :=
  (w.listIds.find? fun e => e.1.1 = i && e.1.2.alike name).map Prod.snd

/-- An attribute as scripts see it, with what the sprite shares filled in. -/
def attribute? (w : World) (i : Nat) (key : String) : Except Fault Value := do
  let s := w.sprite i
  match ← s.get? key with
  | .shared =>
    match key with
    | "variables" => return .record (w.kit s.kit).vars
    | "lists" => return .record (w.kit s.kit).lists
    | "blocks" => return .record ((w.kit s.kit).blocks.map fun (id, b) => (id, .record b.fields))
    | "image" => do return (← s.image?).size
    | "rect" => do return (← s.rect?).toValue
    | _ => return if s.arguments.isEmpty then .record [] else .object "dict" "" 0
  | v => return v

end World

end BlockStage
