import BlockStage.Expression.Method.Bytes
import BlockStage.Expression.Walk

/-!
# Parts of values

The part of a value at an index or under a name: what it is, and how it is set and taken away.
-/

namespace BlockStage.Expression.Eval

/-! ## Changing -/

/-- Changes some fields into others. -/
def putChanged (give : String → Datum → Eval Unit) (drop : String → Eval Unit)
    (old new : List (Datum × Datum)) : Eval Unit := do
  new.forM fun (k, d) => do
    let .one (.text s) := k | return ()
    if (Datum.lookup? old k).all fun before => !before.identical d then give s d
  old.forM fun (k, _) => do
    let .one (.text s) := k | return ()
    if (Datum.lookup? new k).isNone then drop s

/-- Gives a global name a value. -/
def giveName (s : String) (d : Datum) : Eval Unit := do ask (.setName s (some (d, ← toValue d)))

/-- `setattr` -/
def giveMember (of : Datum) (s : String) (d : Datum) : Eval Unit := do
  ofExcept (← ask (.setMember of s (some (← toValue d))))

/-- `delattr` -/
def takeMember (of : Datum) (s : String) : Eval Unit := do ofExcept (← ask (.setMember of s none))

def bindingsOf (fields : List (Datum × Datum)) : Eval (List ((Datum × Value) × Value)) := do
  let found ← fields.mapM fun (k, d) => do
    let .row .tuple [script, name] := k | return []
    let name ← toValue name
    return [((script, name), ← toValue d)]
  return found.flatten

/-- Replaces what a reference stands for. -/
def put (r : Ref) (o : Obj) : Eval Unit := do
  match r.root, r.path with
  | .made n, [] => ask (.store n o)
  | .names, [] => changed giveName fun s => ask (.setName s none)
  | .attributes i, [] => changed (giveMember (.sprite i)) (takeMember (.sprite i))
  | .bindings i, [] =>
    let .record fields := o | return ()
    ask (.rebind i (← bindingsOf fields))
  | root, _ =>
    let v ← match root, o with
      | .kept "threads", .list items => pure (Value.list (items.map thread))
      | .kept "list_name_to_id", .record fields => do pure (Value.list (← fields.mapM listId))
      | _, .list items => do pure (Value.list (← items.mapM toValue))
      | _, .record fields => do
        pure (Value.record (← mapFields (fun k => ofExcept k.display?) toValue fields))
      | _, _ => throw .wrongKind
    ofExcept (← ask (.write r v))
where
  thread : Datum → Value
    | .thing kind shown n => .object kind shown n
    | _ => .null
  listId : Datum × Datum → Eval Value
    | (.row .tuple [s, name], id) => do
      let s ← toValue s
      let name ← toValue name
      return .list [s, name, ← toValue id]
    | _ => return .null
  changed (give : String → Datum → Eval Unit) (drop : String → Eval Unit) : Eval Unit := do
    match o, ← fetch r with
    | .record new, .record old => putChanged give drop old new
    | _, _ => return ()

/-- Sets a field. -/
def putField (r : Ref) (fields : List (Datum × Datum)) (key value : Datum) : Eval Unit := do
  key.needName
  match r.root, r.path, key with
  | .names, [], .one (.text s) => giveName s value
  | .attributes i, [], .one (.text s) => giveMember (.sprite i) s value
  | .bindings i, [], .row .tuple [script, name] =>
    let name ← toValue name
    ask (.bind i script name (← toValue value))
  | _, _, _ => put r (.record (Datum.put fields key value))

def withoutField (fields : List (Datum × Datum)) (key : Datum) : List (Datum × Datum) :=
  fields.filter fun p => !(p.1.alike key)

/-! ## Indices -/

/-- `d[i]` -/
def part (d i : Datum) : Eval Datum := do
  match d with
  | .ref .record ⟨.names, []⟩ =>
    let .one (.text s) := i | throw .missingKey
    (← ask (.name s)).elim (throw .missingKey) pure
  | d =>
    let whole ← open? d
    if let .ref _ _ := whole then throw .wrongKind
    settle (← whole.part? i)

/-! ## Setting parts -/

def positionOf? (length : Nat) (i : Datum) : Except Fault Nat := do
  let some k := Value.position? length (← i.needWhole) | throw .outOfRange
  return k

/-- `d[i] = v` -/
def setPart (d i v : Datum) : Eval Unit := do
  let .ref tag r := d | throw .wrongKind
  match tag, ← fetch r with
  | .list, .list items => put r (.list (items.set (← positionOf? items.length i) v))
  | .record, .record fields => putField r fields i v
  | _, _ => throw .wrongKind

/-- `del d[i]` -/
def dropPart (d i : Datum) : Eval Unit := do
  let .ref tag r := d | throw .wrongKind
  match tag, ← fetch r with
  | .list, .list items => put r (.list (items.eraseIdx (← positionOf? items.length i)))
  | .record, .record fields =>
    i.needName
    if (Datum.lookup? fields i).isNone then throw .missingKey
    put r (.record (withoutField fields i))
  | _, _ => throw .wrongKind

/-! ## Being part of -/

def among (w part : Datum) : Eval Bool := do
  each w false fun _ d => do
    let found ← alike d part
    return (found, !found)

/-- `part in d` -/
def contains (d part : Datum) : Eval Bool := do
  if canStep d then return ← among d part
  match ← open? d with
  | .record fields => do (Datum.record fields).contains? part
  | .row _ items => items.anyM fun d => alike d part
  | .view .values fields => fields.anyM fun p => alike p.2 part
  | d =>
    let d ← seen d
    needContainer d
    d.contains? (← seen part)
where
  needContainer (d : Datum) : Except Fault Unit :=
    match d with
    | .one (.text _) => .ok ()
    | d => (d.elements?).map fun _ => ()

end BlockStage.Expression.Eval
