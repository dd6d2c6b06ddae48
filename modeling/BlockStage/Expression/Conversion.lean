import BlockStage.Expression.Method.Call

/-!
# Conversions

How values of one kind become values of another.
-/

namespace BlockStage.Expression.Conversion

open Eval

/-! ## Integers -/

/-- Reads a value; bytes are read as the text that they are. -/
def readBy {α : Type} (read : Value → Except Fault α) (d : Datum) : Eval α := do
  match ← open? d with
  | .one v => read v
  | .bytes codes | .buffer codes => read (.text (Datum.codesText codes))
  | _ => throw .wrongKind

/-- `int` -/
def toInt (a : Args) : Eval Datum := do
  let some d ← a.optional? | return .int 0
  return .int (← readBy Value.toInt? d)

/-! ## Other numbers -/

/-- `float` -/
def toFloat (a : Args) : Eval Datum := do
  let some d ← a.optional? | return .float 0.0
  return .float (← readBy Value.toFloat? d)

/-- Where the sign of the imaginary part stands: the last sign that starts a number. -/
def imaginaryStart? (cs : List Char) : Option Nat :=
  let marks := cs.zipIdx.filter fun (c, i) =>
    (c = '+' || c = '-') && 0 < i && cs[i - 1]?.any fun b => !(b = 'e' || b = 'E')
  marks.getLast?.map Prod.snd

def imaginary? : List Char → Option Float
  | [] | ['+'] => some 1
  | ['-'] => some (-1)
  | cs => if cs.any Text.isSpace then none else Reading.float? (String.ofList cs)

def readComplex? (s : String) : Option Datum := do
  let cs := Text.trim Text.isSpace s.toList
  let cs := if cs.head? = some '(' && cs.getLast? = some ')' then
      Text.trim Text.isSpace cs.tail.dropLast
    else cs
  if cs.any Text.isSpace then none
  let last ← cs.getLast?
  if !(last = 'j' || last = 'J') then return .complex (← Reading.float? (String.ofList cs)) 0
  let body := cs.dropLast
  let some i := imaginaryStart? body | return .complex 0 (← imaginary? body)
  let re ← Reading.float? (String.ofList (body.take i))
  return .complex re (← imaginary? (body.drop i))

/-- `complex` -/
def toComplex (a : Args) : Eval Datum := do
  match ← a.optional? with
  | none => return .complex 0 0
  | some (.one (.text s)) => (readComplex? s).elim (throw .badValue) pure
  | some d => return .ofComplex (← d.complex?)

/-! ## Texts and bytes -/

/-- `str` -/
def toText (a : Args) : Eval Datum := do
  let some d ← a.optional? | return .text ""
  return .text (← display d)

/-- `bytes` -/
def toCodes (a : Args) : Eval (List Nat) := do
  let some d ← a.optional? | return []
  match (← open? d).codes?, d.whole? with
  | some codes, _ => return codes
  | none, some n =>
    if n < 0 then throw .badValue
    if (Value.sizeLimit : Int) < n then throw .outOfMemory
    return List.replicate n.toNat 0
  | none, none => (← elements d).mapM fun d => d.byte?

/-! ## Rows -/

def gathered (a : Args) : Eval (List Datum) := do elements ((← a.optional?).getD (.tuple []))

/-- `range` -/
def toSpan (a : Args) : Eval Datum := do
  match ← (← a.plain?).mapM fun d => Eval.ofExcept d.needWhole with
  | [last] => return .span 0 last 1
  | [first, last] => return .span first last 1
  | [first, last, step] =>
    if step = 0 then throw .badValue
    return .span first last step
  | _ => throw .wrongKind

def itemOf (kind : String) (fields : List (String × Datum)) : Eval Datum :=
  make (.item kind) (.item kind fields)

/-- `Position.__init__` -/
def toPlace (a : Args) : Eval (List (String × Datum)) := do
  let [some x, some y, mode] ← a.bind? 0 2 ["x", "y", "mode"] | throw .wrongKind
  match mode.getD (.text "scratch") with
  | .one (.text "scratch") => return [("x", x), ("y", y)]
  | .one (.text "pygame") | .one (.text "show") =>
    let v ← toValue x
    let p ← BlockStage.Frame.convert BlockStage.Frame.screen BlockStage.Frame.script v (← toValue y)
    return [("x", .int p.1), ("y", .int p.2)]
  | _ => return []

end BlockStage.Expression.Conversion
