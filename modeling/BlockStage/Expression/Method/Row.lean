import BlockStage.Expression.Part

/-!
# Functions of rows and records

Lists and records are changed where they are.
-/

namespace BlockStage.Expression.Method

open Eval

/-! ## Order -/

/-- Puts an item with its key behind those that do not come after it. -/
def insertSorted? (x : Datum × Datum) : List (Datum × Datum) → Except Fault (List (Datum × Datum))
  | [] => .ok [x]
  | y :: rest => do
    if ← Datum.before? false x.1 y.1 then return x :: y :: rest
    return y :: (← insertSorted? x rest)

/-- Items in the order of their keys; what comes first stays first among equals. -/
def sortByKey (backwards : Bool) (items : List (Datum × Datum)) : Eval (List Datum) := do
  let items := if backwards then items.reverse else items
  let keyed := (← items.mapM fun p => seen p.1).zip (items.map Prod.snd)
  let done ← Eval.ofExcept (keyed.foldlM (fun done x => insertSorted? x done) [])
  let done := done.map Prod.snd
  return if backwards then done.reverse else done

/-- The items with their keys. -/
def keyed (key : Option Datum) (items : List Datum) : Eval (List (Datum × Datum)) :=
  match key with
  | none | some (.one .null) => return items.map fun d => (d, d)
  | some f => items.mapM fun d => do return (← callWith f [d], d)

/-- `sorted` -/
def sorted (items : List Datum) (named : List (String × Datum)) : Eval (List Datum) := do
  ({ named := named } : Args).onlyNamed ["key", "reverse"]
  let backwards ← ((named.lookup "reverse").getD (.int 0)).needWhole
  sortByKey (backwards != 0) (← keyed (named.lookup "key") items)

/-! ## Rows -/

namespace Row

def listNames : List String := listed ["append clear copy extend insert pop remove reverse sort"]

/-- The position of the first item that is like a value. -/
def find (d : Datum) : Nat → List Datum → Eval (Option Nat)
  | _, [] => return none
  | i, x :: rest => do if ← alike x d then return some i else find d (i + 1) rest

/-- Where an item is put in, which may be outside. -/
def slot (length : Nat) (i : Int) : Nat :=
  (min (length : Int) (max 0 (if i < 0 then i + length else i))).toNat

def outOf (length : Nat) (a : Args) : Eval Nat := do
  let i ← ((← a.optional?).getD (.int (-1))).count?
  let some k := Value.position? length i | throw .outOfRange
  return k

/-- `list.extend`. What runs meanwhile sees the items that were added before. -/
def extend (r : Ref) (items : List Datum) (d : Datum) : Eval Unit := do
  if d matches .generator _ | .ref (.item _) _ | .ref (.walk "map") _ then
    each d () fun _ x => do
      let .list items ← fetch r | throw .wrongKind
      put r (.list (items ++ [x]))
      return ((), true)
  else put r (.list (items ++ (← elements d)))

def sortInPlace (r : Ref) (items : List Datum) (named : List (String × Datum)) : Eval Unit := do
  ({ named := named } : Args).onlyNamed ["key", "reverse"]
  put r (.list [])
  let found ← attempt (sorted items named)
  let left ← fetch r
  put r (.list (found.toOption.getD items))
  let _ ← Eval.ofExcept found
  let .list [] := left | throw .badValue

/-- What is left of a list, and what comes of a change of it. -/
def change (items : List Datum) (name : String) (a : Args) : Eval (List Datum × Datum) := do
  match name with
  | "append" => return (items ++ [← a.one?], .null)
  | "clear" =>
    a.none?
    return ([], .null)
  | "insert" =>
    let (i, d) ← a.two?
    let k := slot items.length (← i.count?)
    return (items.take k ++ d :: items.drop k, .null)
  | "pop" =>
    let k ← outOf items.length a
    return (items.eraseIdx k, items.getD k .null)
  | "remove" =>
    let some k ← find (← a.one?) 0 items | throw .badValue
    return (items.eraseIdx k, .null)
  | "reverse" =>
    a.none?
    return (items.reverse, .null)
  | _ => throw .missingMember

/-- Calls a method of a list. -/
def list (r : Ref) (items : List Datum) (name : String) (a : Args) : Eval Datum := do
  match name with
  | "copy" =>
    a.none?
    Eval.list items
  | "extend" =>
    extend r items (← a.one?)
    return .null
  | "sort" =>
    if !a.placed.isEmpty then throw .wrongKind
    sortInPlace r items a.named
    return .null
  | name =>
    let (items, d) ← change items name a
    put r (.list items)
    return d

end Row

/-! ## Records -/

namespace Record

def names : List String :=
  listed ["clear copy get items keys pop popitem setdefault update values"]

def putAll (fields more : List (Datum × Datum)) : List (Datum × Datum) :=
  more.foldl (fun done p => Datum.put done p.1 p.2) fields

/-- The fields of a record, or pairs of names and values, put into others. -/
def putFields (done : List (Datum × Datum)) (d : Datum) : Eval (List (Datum × Datum)) := do
  if let .record fields ← open? d then return putAll done fields
  each d done fun done pair => do
    let [k, v] ← elements pair | throw .badValue
    k.needName
    return (Datum.put done k v, true)

/-- `dict.update` -/
def extended (fields : List (Datum × Datum)) (a : Args) : Eval (List (Datum × Datum)) := do
  let fields ← match a.placed with
    | [] => pure fields
    | [d] => putFields fields d
    | _ => throw .wrongKind
  return putAll fields (a.named.map fun (k, v) => (.text k, v))

def keyAnd (a : Args) : Eval (Datum × Option Datum) := do
  let (key, other) ← a.oneAnd?
  key.needName
  return (key, other)

/-- Calls a method of a record. -/
def call (r : Ref) (fields : List (Datum × Datum)) (name : String) (a : Args) : Eval Datum := do
  match name with
  | "clear" =>
    a.none?
    put r (.record [])
    return .null
  | "copy" =>
    a.none?
    record fields
  | "get" =>
    let (key, other) ← keyAnd a
    return (Datum.lookup? fields key).getD (other.getD .null)
  | "setdefault" =>
    let (key, other) ← keyAnd a
    if let some d := Datum.lookup? fields key then return d
    putField r fields key (other.getD .null)
    return other.getD .null
  | "items" | "keys" | "values" =>
    a.none?
    return .viewOf (if name == "items" then .items else if name == "keys" then .keys else .values) r
  | "pop" =>
    let (key, other) ← if fields.isEmpty then a.oneAnd? else keyAnd a
    match Datum.lookup? fields key, other with
    | some d, _ =>
      put r (.record (withoutField fields key))
      return d
    | none, some d => return d
    | none, none => throw .missingKey
  | "popitem" =>
    a.none?
    let some p := fields.getLast? | throw .missingKey
    put r (.record fields.dropLast)
    return .tuple [p.1, p.2]
  | "update" =>
    put r (.record (← extended fields a))
    return .null
  | _ => throw .missingMember

end Record

end BlockStage.Expression.Method
