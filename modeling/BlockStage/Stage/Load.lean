import BlockStage.Script.Member
import BlockStage.Stage.Archive

/-!
# Loading a project

A project is loaded target by target, and a script is started for each block that waits for the green
flag. Then the monitors are made. A description that does not have its shape ends the program.
-/

namespace BlockStage

namespace Load

/-- `sprite.variables` -/
def variableTexts (entries : List (String × Value)) : Except Fault (Table Value) :=
  entries.foldlM (fun t (id, v) => do
    let value ← v.at? 1
    let _ ← v.at? 0
    return Table.put t id (.text value.asText)) []

/-- The name and the items of a list. -/
def list (v : Value) : Except Fault (Value × Value) := do
  let name ← v.at? 0
  if !name.canName then throw .wrongKind
  let items ← (← v.at? 1).elements?
  return (name, .list (items.map fun item => .text item.asText))

/-- `sprite.lists`, with names. -/
def lists (entries : List (String × Value)) : Except Fault (List (String × Value × Value)) :=
  entries.mapM fun (id, v) => do
    let (name, items) ← list v
    return (id, name, items)

/-- Updates `list_name_to_id`; the last of several lists of one name counts. -/
def noteList (ids : List ((Nat × Value) × String)) (sprite : Nat) (name : Value) (id : String) :
    List ((Nat × Value) × String) :=
  match ids with
  | [] => [((sprite, name), id)]
  | e :: rest =>
    if e.1.1 = sprite && e.1.2.alike name then (e.1, id) :: rest
    else e :: noteList rest sprite name id

/-- `sprite.blocks`, each with an opcode. -/
def blocks (entries : List (String × Value)) : Except Fault (Table Block) :=
  entries.mapM fun (id, v) => do
    let _ ← v.field? "opcode"
    match v with
    | .record fields => return (id, ⟨fields⟩)
    | _ => throw .wrongKind

/-- Starts the scripts of `event_whenflagclicked`, which the end of the program waits for. -/
def startFlagged (sprite : Nat) (w : World) (entries : Table Block) : World :=
  entries.foldl (fun w (flag, b) =>
    if b.hasOpcode "event_whenflagclicked" then
      let w := w.start sprite (.text flag)
      { w with managed := w.managed.add w.threads }
    else w) w

/-- An attribute that has to be there. -/
def required (fields : Table Value) (key : String) : Except Fault Value :=
  match Table.get? fields key with
  | some v => .ok v
  | none => .error .missingMember

/-- The attributes that a target gives its sprite. -/
def attributes (given : Table Value) : Except Fault (Table Value) :=
  Attributes.ofFields (Table.put given CloneMode.key CloneMode.principal.value)

/-- A sprite whose data are in its kit. -/
def sprite (fields : Table Value) (kit : Nat) : Sprite :=
  let s := Sprite.reset { fields := fields, kit := kit }
  ((s.put "variables" .shared).put "lists" .shared).put "blocks" .shared

/-- Loads one of the `targets`. -/
def target (v : Value) : Run Unit := do
  match v with
  | .record given =>
    let fields ← attributes given
    let vars ← variableTexts (← (← (Value.record given).field? "variables").fields?)
    let named ← lists (← (← (Value.record given).field? "lists").fields?)
    let w ← get
    let me := w.sprites.length
    let s := sprite fields me
    Run.log (.variablesOf (← s.title?))
    let isStage ← s.isStage?
    let s ← if isStage then do pure (s.put "time" (Value.float (← w.host.time))) else pure s
    let entries ← blocks (← (← required fields "blocks").fields?)
    let kit : Kit := ⟨entries, vars, named.map fun (id, _, items) => (id, items)⟩
    modify fun w =>
      startFlagged me { w with
        sprites := w.sprites ++ [s]
        kits := w.kits ++ [kit]
        cast := w.cast ++ [me]
        latest := me
        listIds := named.foldl (fun ids (id, name, _) => noteList ids me name id) w.listIds
        stage := if isStage then some me else w.stage } entries
  | _ => throw (.fault (.error .wrongKind))

/-- The last sprite that a monitor names, and the stage if there is none. -/
def monitorSprite (w : World) (stage : Nat) (name : Value) : Nat :=
  ((w.cast.filter fun i =>
    match (w.sprite i).title? with
    | .ok title => name.isText title
    | .error _ => false).getLast?).getD stage

/-- The attributes of a monitor. `Monitor.name` cannot be set. -/
def monitorFields (entries : List (String × Value)) : Except Fault (Table Value) :=
  entries.foldlM (fun t (key, v) =>
    if key = "name" then .error .missingMember else Attributes.put t key v) []

/-- `Monitor.__init__` -/
def monitor (v : Value) : Run Unit := do
  let x ← v.field? "x"
  let y ← v.field? "y"
  let place ← Place.ofScreen x y
  match v with
  | .record given =>
    let fields ← monitorFields (Table.erase (Table.erase given "x") "y")
    let w ← get
    let stage ← w.stage?
    let owner ← required fields "spriteName"
    let mode ← required fields "mode"
    let fields := if mode.isText "list" then Table.put fields "show_y" (Value.int 0) else fields
    let m : Monitor := ⟨fields, place, monitorSprite w stage owner⟩
    set { w with monitors := w.monitors ++ [m] }
  | _ => throw (.fault (.error .wrongKind))

/-! ## What the program still knows of the project -/

/-- A target with its `clone_mode`. -/
def markedTarget (v : Value) : Value :=
  match v with
  | .record parts => .record (Table.put parts CloneMode.key CloneMode.principal.value)
  | v => v

/-- A monitor with its `position`. -/
def placedMonitor (v : Value) : Value :=
  match v with
  | .record parts =>
    match (do Place.ofScreen (← v.field? "x") (← v.field? "y")) with
    | .ok place =>
      let parts := Table.put parts "position" (.place (.int place.1) (.int place.2))
      .record (Table.erase (Table.erase parts "x") "y")
    | .error _ => v
  | v => v

def withItems (fields : Table Value) (key : String) (f : Value → Value) : Table Value :=
  match Table.get? fields key with
  | some (.list items) => Table.put fields key (.list (items.map f))
  | _ => fields

/-- The description as loading leaves it. -/
def marked (description : Value) : Value :=
  match description with
  | .record fields =>
    .record (withItems (withItems fields "targets" markedTarget) "monitors" placedMonitor)
  | v => v

def lastKey? (target : Value) (key : String) : Option String := do
  let fields ← (target.field? key).toOption
  return (← (← fields.fields?.toOption).getLast?).1

/-- A part of the description. -/
def inProject (w : World) (path : List Expression.Key) : Expression.Datum :=
  w.datumAt (.kept "t") path ((w.description.partAt? path).getD .null)

/-- The names that loading leaves: the last target or monitor, entry, list and block, and the names of the last
variables. -/
def namesLeft (w : World) : List (String × Expression.Datum) × Option (Table Value) :=
  let items (key : String) : List Value :=
    ((w.description.field? key).bind Value.elements?).toOption.getD []
  let targets := items "targets"
  let numbered := (targets.zip (List.range targets.length)).reverse
  let last := match (items "monitors").length, targets.length with
    | n + 1, _ => [("i", inProject w [.name "monitors", .position n])]
    | 0, n + 1 => [("i", inProject w [.name "targets", .position n])]
    | 0, 0 => []
  let entry (n : Nat) (key id : String) : Expression.Datum :=
    .tuple [.text id, inProject w [.name "targets", .position n, .name key, .name id]]
  let read := numbered.findSome? fun (v, n) =>
    match lastKey? v "lists", lastKey? v "variables" with
    | some id, _ => some (entry n "lists" id)
    | none, some id => some (entry n "variables" id)
    | none, none => none
  let list := numbered.findSome? fun (v, n) => (lastKey? v "lists").map fun id => [
    ("listid", .text id),
    ("listname", inProject w
      [.name "targets", .position n, .name "lists", .name id, .position 0]),
    ("thelist", .ref .list ⟨.kit n "lists", [.name id]⟩)]
  let block := numbered.findSome? fun (v, n) => (lastKey? v "blocks").map fun id => [
    ("flag", .text id), ("code", .ref .record ⟨.kit n "blocks", [.name id]⟩)]
  let names := targets.getLast?.bind fun v => do
    let fields ← ((← (v.field? "variables").toOption).fields?).toOption
    return fields.map fun (id, v) =>
      (id, Value.text (((v.at? 0).toOption.map Value.asText).getD ""))
  (last ++ (read.map fun d => ("j", d)).toList ++ list.getD [] ++ block.getD [], names)

/-- Keeps these names in memory. -/
def keepNames (w : World) : World :=
  let (names, lastRead) := namesLeft w
  let made := (lastRead.map fun t =>
    Expression.Obj.record (t.map fun (k, v) => (.text k, .ofValue v))).toList
  let table := made.map fun _ =>
    ("variables_name", Expression.Datum.ref .record ⟨.made w.memory.objects.size, []⟩)
  let started := if w.threads = 0 then [] else [("thread", World.threadThing w.threads)]
  let names := names ++ table ++ started ++ [
    ("f", .thing "ZipFile" "<zipfile.ZipFile [closed]>" 1)]
  { w with memory := { w.memory with
    objects := w.memory.objects ++ made.toArray
    names := names.map fun (s, d) => (s, some d) } }

/-! ## The project -/

/-- The program up to its main loop. -/
def project (archive : Archive) : Run Unit := do
  Run.log .begun
  Run.log .displayReady
  let description ← archive.description?
  Run.log .projectRead
  modify fun w => { w with description := marked description }
  for v in ← (← description.field? "targets").elements? do
    target v
  Run.log .variablesRead
  for v in ← (← description.field? "monitors").elements? do
    monitor v
  modify keepNames
  Run.log .monitorsMade
  Run.record (.caption "scratch")
  Run.log .loopEntered

end Load

/-- The world before the project is loaded. -/
def World.empty (host : Host) : World :=
  { host := host, ticks := host.ticks, fuel := host.fuel, pointer := ⟨host.mouse, host.elapsed⟩ }

end BlockStage
