import BlockStage.World

/-!
# Parts of the world that expressions refer to

An expression refers to a list or a record of the world by where it is: a root, and the steps from
there. What is found refers to its own parts in the same way, so that a change is seen by all.
-/

namespace BlockStage

open Expression (Datum Key Obj Ref Root)

namespace Value

/-- The part of a value at a path. -/
def partAt? : Value → List Key → Option Value
  | v, [] => some v
  | .record fields, .name s :: rest => do partAt? (← Table.get? fields s) rest
  | .list items, .position n :: rest => do partAt? (← items[n]?) rest
  | _, _ => none

/-- A value with another part at a path. -/
def withPartAt? : Value → List Key → Value → Option Value
  | _, [], new => some new
  | .record fields, .name s :: rest, new => do
    let part ← withPartAt? (← Table.get? fields s) rest new
    return .record (Table.put fields s part)
  | .list items, .position n :: rest, new => do
    let part ← withPartAt? (← items[n]?) rest new
    return .list (items.set n part)
  | _, _, _ => none

end Value

namespace World

def spriteValue (w : World) (i : Nat) : Value :=
  .object "Sprite" ((w.sprite i).title?.toOption.getD "") i

/-- The table that a root stands for. -/
def rootValue? (w : World) : Root → Option Value
  | .attributes i => (w.sprites[i]?).map fun s => .record s.fields
  | .kit k "variables" => some (.record (w.kit k).vars)
  | .kit k "lists" => some (.record (w.kit k).lists)
  | .kit k "blocks" => some (.record ((w.kit k).blocks.map fun (id, b) => (id, .record b.fields)))
  | .kept "sprite_list" => some (.list (w.cast.map w.spriteValue))
  | .kept "clone_list" => some (.list (w.clones.map w.spriteValue))
  | .kept "t" => some w.description
  | .kept "monitor_list" => some (.list (w.monitors.map fun m => .record m.fields))
  | .kept "filenamelist" => some (.list [.text "project.json", .text "asset.txt"])
  | _ => none

/-- What stands for an attribute that the world keeps elsewhere. -/
def sharedTable (w : World) (i : Nat) (key : String) : Datum :=
  match key with
  | "variables" | "lists" | "blocks" => .ref .record ⟨.kit (w.sprite i).kit key, []⟩
  | "argument_dict" => .ref .record ⟨.bindings i, []⟩
  | "image" => .thing "Surface" "<Surface>" i
  | _ => .null

/-- A part of the world, as a datum. -/
def datumAt (w : World) (root : Root) (path : List Key) (v : Value) : Datum :=
  match v with
  | .list _ => .ref .list ⟨root, path⟩
  | .record _ => .ref .record ⟨root, path⟩
  | .shared =>
    match root, path with
    | .attributes i, [.name key] => w.sharedTable i key
    | _, _ => .null
  | v =>
    match Datum.ofValue v with
    | .one (.object kind shown (n + 1)) =>
      (w.memory.kept[n]?).getD (.one (.object kind shown (n + 1)))
    | d => d

/-- A thread, as a datum. -/
def threadThing (n : Nat) : Datum := .thing "Thread" ("<Thread(Thread-" ++ toString n ++ ")>") n

def nameDatum (v : Value) : Datum :=
  match Datum.ofValue v with
  | .row _ items => .tuple items
  | d => d

/-- The `argument_dict` of a sprite. -/
def bindingFields (w : World) (i : Nat) : List (Datum × Datum) :=
  (w.sprite i).arguments.map fun b =>
    (.tuple [threadThing b.thread, nameDatum b.name], .ofValue b.value)

/-- Bindings from an `argument_dict`. -/
def bindingsOf (fields : List ((Datum × Value) × Value)) : List Binding :=
  fields.filterMap fun ((key, name), v) =>
    match key with
    | .thing "Thread" _ n => some ⟨n, name, v⟩
    | _ => none

/-- An entry of `monitor_list`. -/
def monitorDatum (n : Nat) : Datum := .ref (.item "Monitor") ⟨.kept "monitor_list", [.position n]⟩

/-- What a reference stands for. -/
def found? (w : World) (r : Ref) : Option Obj :=
  match r.root, r.path with
  | .made n, _ => w.memory.objects[n]?
  | .bindings i, [] => some (.record (w.bindingFields i))
  | .kept "event", [] => w.event.map fun e =>
    .item "Event" (e.fields.map fun (k, v) => (k, .ofValue v))
  | .kept "monitor_list", [] => some (.list ((List.range w.monitors.length).map monitorDatum))
  | .kept "monitor_list", [.position n] => (w.monitors[n]?).map fun m =>
    .item "Monitor" ((m.fields.map fun (k, v) =>
      (k, w.datumAt r.root [.position n, .name k] v)) ++ [("sprite", .sprite m.sprite)])
  | .kept "threads", [] => some (.list (w.managed.threads.map threadThing))
  | .kept "list_name_to_id", [] =>
    some (.record (w.listIds.map fun ((i, name), id) =>
      (.tuple [.sprite i, .ofValue name], .text id)))
  | root, path => do
    match ← (← w.rootValue? root).partAt? path with
    | .list items =>
      return .list (items.mapIdx fun n v => w.datumAt root (path ++ [.position n]) v)
    | .record fields =>
      return .record (fields.map fun (k, v) =>
        (.text k, w.datumAt root (path ++ [.name k]) v))
    | _ => none

/-- The numbers of the things of a kind in a list. -/
def thingNumbers? (kind : String) : Value → Option (List Nat)
  | .list items => items.mapM fun v =>
      match v with
      | .object k _ n => if k = kind then some n else none
      | _ => none
  | _ => none

/-- A `list_name_to_id` from its rows. -/
def listIdsOf? : Value → Option (List ((Nat × Value) × String))
  | .list rows => rows.mapM fun row =>
      match row with
      | .list [.object "Sprite" _ i, name, .text id] => some ((i, name), id)
      | _ => none
  | _ => none

/-- The world with another table at a root. -/
def withRoot? (w : World) (root : Root) (v : Value) : Option World :=
  match root, v with
  | .attributes i, .record fields => some (w.updateSprite i fun s => { s with fields := fields })
  | .kit k "variables", .record fields => some (w.updateKit k fun kit => { kit with vars := fields })
  | .kit k "lists", .record fields => some (w.updateKit k fun kit => { kit with lists := fields })
  | .kit k "blocks", .record fields =>
    some (w.updateKit k fun kit =>
      { kit with blocks := fields.map fun (id, v) => (id, Block.ofValue v) })
  | .kept "sprite_list", v => do return { w with cast := ← thingNumbers? "Sprite" v }
  | .kept "clone_list", v => do return { w with clones := ← thingNumbers? "Sprite" v }
  | .kept "threads", v => do return { w with managed := ⟨← thingNumbers? "Thread" v⟩ }
  | .kept "list_name_to_id", v => do return { w with listIds := ← listIdsOf? v }
  | .kept "t", v => some { w with description := v }
  | _, _ => none

/-- The world with another part. -/
def write? (w : World) (r : Ref) (v : Value) : Option World :=
  match r.path with
  | [] => w.withRoot? r.root v
  | path => do w.withRoot? r.root (← (← w.rootValue? r.root).withPartAt? path v)

/-! ## Names -/

/-- What a global name stands for. -/
def programName? (w : World) (name : String) : Option Datum :=
  match name with
  | "stage" => w.stage.map .sprite
  | "sprite" => if w.sprites.isEmpty then none else some (.sprite w.latest)
  | "done" => some (.bool w.done)
  | "sprite_list" | "clone_list" | "monitor_list" | "filenamelist" =>
    some (.ref .list ⟨.kept name, []⟩)
  | "monitor" => if w.monitors.isEmpty then none else some (monitorDatum (w.monitors.length - 1))
  | "keys_pressed" => w.keys.map fun _ => .thing "ScancodeWrapper" "<ScancodeWrapper>" 1
  | "list_name_to_id" | "t" => some (.ref .record ⟨.kept name, []⟩)
  | "event" => w.event.map fun _ => .ref (.item "Event") ⟨.kept name, []⟩
  | "__name__" => some (.text "__main__")
  | _ => none

/-- The global names that have a value. -/
def programNames (w : World) : List String :=
  ["list_name_to_id", "filenamelist", "t", "sprite_list", "clone_list", "done", "sprite", "stage",
    "monitor_list", "monitor", "event", "keys_pressed"].filter fun s =>
    (w.programName? s).isSome

end World

end BlockStage
