import BlockStage.Expression.Look

/-!
# Walks

Each step of a walk gives the next element and moves the walk on. A walk over a list goes by positions,
and one over a record fails if the record gets more or fewer fields meanwhile.
-/

namespace BlockStage.Expression.Eval

/-- Fails with a kind and a text. -/
def raise {α : Type} (kind message : String) : Eval α := throw (.raised kind message 0)

def isEnd : Fault → Bool
  | .exhausted => true
  | .raised kind _ _ => kind == "StopIteration"
  | _ => false

/-! ## Starting -/

def viewWalkKind (part : View) : String :=
  let shown := match part with
    | .keys => "key"
    | .values => "value"
    | .items => "item"
  "dict_" ++ shown ++ "iterator"

def walkKind : Datum → String
  | .one (.text s) =>
    if s.toList.all (·.toNat < 128) then "str_ascii_iterator" else "str_iterator"
  | .pane _ => "memory_iterator"
  | .view part _ => viewWalkKind part
  | d => d.kind ++ "_iterator"

def size (r : Ref) : Eval Nat := do
  match ← fetch r with
  | .record fields => return fields.length
  | _ => return 0

def canStep (d : Datum) : Bool := d matches .ref (.walk _) _ | .generator _

/-- `iter(d)` -/
def iter (d : Datum) : Eval Datum := do
  match d with
  | .ref (.walk _) _ | .generator _ => return d
  | .ref .list r => walk "list_iterator" (.list r 0)
  | .ref .record r => walk "dict_keyiterator" (.record .keys r (← size r) 0)
  | .viewOf part r => walk (viewWalkKind part) (.record part r (← size r) 0)
  | .span first last step =>
    walk "range_iterator" (.span first step (Datum.spanLength first last step))
  | d => walk (walkKind d) (.items (← (← open? d).elements?))

/-! ## Going on -/

def shown (part : View) (field : Datum × Datum) : Datum :=
  match part with
  | .keys => field.1
  | .values => field.2
  | .items => .tuple [field.1, field.2]

def changed : Fault := .raised "RuntimeError" "dictionary changed size during iteration" 0

def walkDepth : Nat := 1000

/-- The next items of walks side by side. -/
def stepAll (next : Datum → Eval (Option Datum)) :
    List Datum → List Datum → Eval (Option (List Datum))
  | [], done => return some done.reverse
  | w :: rest, done => do
    let some d ← next w | return none
    stepAll next rest (d :: done)

def orEnded (d : Option Datum) (left : Walk) : Option Datum × Walk :=
  (d, if d.isSome then left else .ended)

/-- The next item of a walk and the walk that is left. -/
def advance (next : Datum → Eval (Option Datum)) : Walk → Eval (Option Datum × Walk)
  | .ended | .items [] | .span _ _ 0 => return (none, .ended)
  | .items (d :: rest) => return (some d, .items rest)
  | .span n step (left + 1) => return (some (.int n), .span (n + step) step left)
  | .list r i => do
    let .list items ← fetch r | throw .wrongKind
    return orEnded items[i]? (.list r (i + 1))
  | .record part r size i => do
    let .record fields ← fetch r | throw .wrongKind
    if fields.length ≠ size then throw changed
    return orEnded (fields[i]?.map (shown part)) (.record part r size (i + 1))
  | .zipped [] => return (none, .zipped [])
  | .zipped walks => do
    let some items ← stepAll next walks [] | return (none, .zipped walks)
    return (some (.tuple items), .zipped walks)
  | .mapped f walks => do
    let some items ← stepAll next walks [] | return (none, .mapped f walks)
    return (some (← callWith f items), .mapped f walks)
  | .called f last => do
    let d ← callWith f []
    if ← alike last d then return (none, .ended) else return (some d, .called f last)

def stepWithin : Nat → Datum → Eval (Option Datum)
  | 0, _ => throw .tooDeep
  | n + 1, w => do
    match w with
    | .generator k =>
      match ← resume k (.ok .null) with
      | .gave d => return some d
      | .ended _ => return none
      | .failed f => throw f
    | .ref (.walk _) r =>
      let .walk old ← fetch r | throw .wrongKind
      let .made k := r.root | throw .wrongKind
      let (d, left) ← advance (stepWithin n) old
      ask (.store k (.walk left))
      return d
    | _ => throw .wrongKind

/-- `next(w)` -/
def next (w : Datum) : Eval (Option Datum) := stepWithin walkDepth w

/-- Goes on with a walk, `n` steps at most. -/
def eachOf {σ : Type} (w : Datum) (f : σ → Datum → Eval (σ × Bool)) : Nat → σ → Eval σ
  | 0, _ => throw .outOfMemory
  | n + 1, so => do
    let some d ← next w | return so
    let (so, goesOn) ← f so d
    if goesOn then eachOf w f n so else return so

/-- Goes through the elements of a value. -/
def each {σ : Type} (d : Datum) (start : σ) (f : σ → Datum → Eval (σ × Bool)) : Eval σ := do
  eachOf (← iter d) f Datum.walkLimit start

/-- All elements of a value. -/
def elements (d : Datum) : Eval (List Datum) := do
  match d with
  | .ref (.walk _) _ | .generator _ =>
    let found ← each d [] fun so d => return (d :: so, true)
    return found.reverse
  | d => do (← open? d).elements?

end BlockStage.Expression.Eval
