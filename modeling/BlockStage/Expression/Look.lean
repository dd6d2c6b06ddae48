import BlockStage.Expression.Store

/-!
# Looking at values

A value at one moment: what it refers to is looked up, down to its smallest parts.
-/

namespace BlockStage.Expression.Eval

def lookDepth : Nat := 100000

def kindDepth : Nat := 1000

/-! ## Kinds that an expression has made -/

/-- The kinds that a kind belongs to, itself first. -/
def kindsOf : Nat → Datum → Eval (List Datum)
  | 0, k => return [k]
  | n + 1, k => do
    if let .builtin name := k then return (Datum.lineage name).map .builtin
    let .ref _ r := k | return [k]
    let some (.kind _ bases _) ← fetch? r | return [k]
    return k :: lastOnly (← bases.mapM (kindsOf n)).flatten
where
  /-- Keeps the last of several that are the same. -/
  lastOnly : List Datum → List Datum
    | [] => []
    | k :: rest => if rest.any (Datum.identical k) then lastOnly rest else k :: lastOnly rest

/-- The attributes of something of a kind. -/
def item? (d : Datum) : Eval (Option (List (String × Datum))) := do
  let .ref (.item _) r := d | return none
  let some (.item _ fields) ← fetch? r | return none
  return some fields

/-- What a name means in the first of some kinds that has it. -/
def findIn (name : String) : List Datum → Eval (Option Datum)
  | [] => return none
  | k :: rest => do
    if let .ref (.kind _) r := k then
      if let some (.kind _ _ fields) ← fetch? r then
        if let some d := fields.lookup name then return some d
    findIn name rest

/-! ## Looking -/

/-- A value whose parts may still refer to something. -/
def open? (d : Datum) : Eval Datum := do
  match d with
  | .ref .list r | .ref .record r | .ref .buffer r =>
    match ← fetch r with
    | .list items => return .row .list items
    | .record fields => return .record fields
    | .buffer codes => return .buffer codes
    | _ => return d
  | .viewOf part r =>
    let .record fields ← fetch r | return d
    return .view part fields
  | d => return d

def placeText (x y : String) : String := "POSITION(" ++ x ++ "," ++ y ++ ")"

/-- What a function answers that has to answer a text. -/
def answeredText (d : Datum) (name : String) : Eval String := do
  let .value (.text s) ← ofExcept (← ask (.invoke d name [])) | throw .wrongKind
  return s

def mapFields {α β : Type} (f : Datum → Eval α) (g : Datum → Eval β) (fields : List (Datum × Datum)) :
    Eval (List (α × β)) :=
  fields.mapM fun (k, v) => do
    let k ← f k
    return (k, ← g v)

/-- A value at one moment. If it is `told`, things say how they show. A value that is part of itself is left out. -/
def look (told : Bool) : Nat → List Ref → Datum → Eval Datum
  | 0, _, d => return d
  | n + 1, path, d => do
    match d with
    | .row shape items => return .row shape (← items.mapM (look told n path))
    | .viewOf part r =>
      if path.contains r then return .thing d.kind "..." 0
      let .record fields ← fetch r | return d
      return .view part (← mapFields (look told n (r :: path)) (look told n (r :: path)) fields)
    | .ref (.walk _) _ | .ref (.function _) _ | .ref (.kind _) _ => return d
    | .ref tag r =>
      let inner := look told n (r :: path)
      let ellipsis := match tag with
        | .list => "[...]"
        | .record => "\x7b...\x7d"
        | tag => tag.kindName ++ "(...)"
      if path.contains r then return .thing tag.kindName ellipsis 0
      match ← fetch? r with
      | some (.list items) => return .row .list (← items.mapM inner)
      | some (.record fields) => return .record (← mapFields inner inner fields)
      | some (.buffer codes) => return .buffer codes
      | some (.item kind fields) =>
        if !told then return d
        if kind == "Position" then
          let x ← inner ((fields.lookup "x").getD .null)
          let y ← inner ((fields.lookup "y").getD .null)
          return .thing kind (placeText (← x.display?) (← y.display?)) 0
        return .thing kind ("<" ++ kind ++ " object>") 0
      | _ => return d
    | .method (.sprite i) name =>
      if !told then return d
      let s ← answeredText (.sprite i) "__repr__"
      return .thing "method" ("<bound method Sprite." ++ name ++ " of " ++ s ++ ">") 0
    | .sprite i => if told then return .thing "Sprite" (← answeredText d "__repr__") i else return d
    | d => return d

def seen (d : Datum) : Eval Datum := look false lookDepth [] d

/-- `repr(d)` -/
def quoted (d : Datum) : Eval String := do (← look true lookDepth [] d).quoted?

/-- `str(d)` -/
def display (d : Datum) : Eval String := do (← look true lookDepth [] d).display?

/-- `format(d, spec)` -/
def format (d : Datum) (spec : String) : Eval String := do
  match d with
  | .one v => v.format? spec
  | _ => if spec.isEmpty then display d else throw .wrongKind

/-! ## Comparing -/

/-- `bool(d)` -/
def holds (d : Datum) : Eval Bool := do return (← open? d).holds

def same (a b : Datum) : Eval Bool := do
  let a ← seen a
  return a.same (← seen b)

def alike (a b : Datum) : Eval Bool := do
  if a.identical b || a.bothNaN b then return true
  same a b

/-- `a < b`, or `a <= b` -/
def before (orSame : Bool) (a b : Datum) : Eval Bool := do
  let a ← seen a
  Datum.before? orSame a (← seen b)

def length (d : Datum) : Eval Nat := do (← open? d).length?

/-! ## Handing values on -/

/-- The value of blocks that a value is handed on as. What blocks do not know is kept. -/
def plain : Nat → Datum → Eval Value
  | 0, d => return d.toValue
  | n + 1, d => do
    match d with
    | .one v => return v
    | .row .list items | .row .tuple items => return .list (← items.mapM (plain n))
    | .record fields => return .record (← mapFields (fun k => ofExcept k.display?) (plain n) fields)
    | .sprite i =>
      let shown ← attempt (display d)
      return .object "Sprite" (shown.toOption.getD "") i
    | .ref (.item "Position") _ =>
      let some fields ← item? d | return .null
      let x ← plain n ((fields.lookup "x").getD .null)
      return .place x (← plain n ((fields.lookup "y").getD .null))
    | .ref _ _ | .generator _ | .method _ _ | .viewOf _ _ =>
      return .object d.kind ((d.quoted?).toOption.getD "") (← ask (.keep d))
    | d => return .object d.kind ((d.quoted?).toOption.getD "") 0

def toValue (d : Datum) : Eval Value := do plain lookDepth (← seen d)

end BlockStage.Expression.Eval
