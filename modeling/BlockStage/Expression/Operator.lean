import BlockStage.Expression.Datum
import BlockStage.Number.Complex

/-!
# Operators

What is not defined for two kinds of values fails with `wrongKind`.
-/

namespace BlockStage.Expression.Datum

/-! ## Indices -/

/-- A bound of a slice. -/
def bound? : Datum → Except Fault (Option Int)
  | .one .null => .ok none
  | d => d.whole?.elim (.error .wrongKind) (.ok ∘ some)

def clamp (length low high n : Int) : Int :=
  max low (min high (if n < 0 then n + length else n))

/-- First, last and step of a slice. -/
def settled? (length : Nat) (first last step : Datum) : Except Fault (Int × Int × Int) := do
  let step := (← step.bound?).getD 1
  if step = 0 then throw .badValue
  let (low, high) : Int × Int := if 0 < step then (0, length) else (-1, length - 1)
  let (near, far) := if 0 < step then (low, high) else (high, low)
  let start := (← first.bound?).elim near (clamp length low high)
  return (start, (← last.bound?).elim far (clamp length low high), step)

/-- The items of a slice. -/
def pick? {α : Type} (items : List α) (first last step : Datum) : Except Fault (List α) := do
  let (start, stop, step) ← settled? items.length first last step
  return (List.range (spanLength start stop step)).filterMap fun (i : Nat) =>
    items[(start + i * step).toNat]?

/-- The item at an index. -/
def at? {α : Type} (items : List α) (i : Datum) : Except Fault α := do
  let some a := (Value.position? items.length (← i.needWhole)).bind (items[·]?) | throw .outOfRange
  return a

def needField (fields : List (Datum × Datum)) (key : Datum) : Except Fault Datum :=
  (lookup? fields key).elim (.error .missingKey) .ok

/-- `d[i]` -/
def part? (d i : Datum) : Except Fault Datum :=
  match d, i with
  | .one (.text s), .range a b c => (pick? s.toList a b c).map chars
  | .one (.text s), i => do return text (String.singleton (← at? s.toList i))
  | .bytes codes, .range a b c => (pick? codes a b c).map .bytes
  | .buffer codes, .range a b c => (pick? codes a b c).map .buffer
  | .pane codes, .range a b c => (pick? codes a b c).map .pane
  | .bytes codes, i | .buffer codes, i | .pane codes, i => do
    let code ← at? codes i
    return int code
  | .row .list items, .range a b c => (pick? items a b c).map list
  | .row .tuple items, .range a b c => (pick? items a b c).map tuple
  | .row .list items, i | .row .tuple items, i => at? items i
  | .record fields, i => do
    i.needName
    needField fields i
  | .span first last step, .range a b c => do
    let (start, stop, stride) ← settled? (spanLength first last step) a b c
    return .span (first + start * step) (first + stop * step) (step * stride)
  | .span first last step, i => do
    let some k := Value.position? (spanLength first last step) (← i.needWhole)
      | throw .outOfRange
    return int (first + k * step)
  | _, _ => .error .wrongKind

/-- Whether a value is among items. -/
def has (items : List Datum) (d : Datum) : Bool := items.any (alike d)

/-! ## Templates -/

/-- A value as an argument of a template. -/
def argument (d : Datum) : Template.Argument where
  display := d.display?
  quoted := d.quoted?
  value := match d with
    | .one v => v
    | d => .object d.kind "" 0

/-- The items of a tuple as arguments of a template, or the value itself. -/
def supply (d : Datum) : Template.Supply :=
  match d with
  | .row .tuple items => { rest := items.map argument }
  | .record fields => {
      rest := [argument d]
      named? := some fun name => (needField fields (text name)).map argument }
  | .row .list _ | .bytes _ | .buffer _ | .span _ _ _ => {
      rest := [argument d]
      named? := some fun _ => .error .wrongKind }
  | d => { rest := [argument d] }

def codesText (codes : List Nat) : String := String.ofList (codes.map Char.ofNat)

def byteArgument (d : Datum) : Template.Argument where
  display := byteText
  quoted := d.quoted?.map fun s => String.ofList (Template.asciiOnly s.toList)
  value := match d, d.codes? with
    | _, some codes => .text (codesText codes)
    | .one (.text _), none => .null
    | d, none => d.argument.value
  raw := byteText
where
  byteText : Except Fault String := d.codes?.elim (.error .wrongKind) (.ok ∘ codesText)

def byteSupply (d : Datum) : Template.Supply :=
  match d with
  | .row .tuple items => { rest := items.map byteArgument }
  | d => { rest := [byteArgument d] }

/-- Fills a template of bytes in. -/
def fillBytes? (template : List Nat) (d : Datum) : Except Fault (List Nat) := do
  let codes := (← Template.fill? (codesText template) d.byteSupply).toList.map Char.toNat
  if codes.all (· < 256) then return codes else throw .overflow

/-! ## Operators -/

def ofComplex (z : Complex) : Datum := .complex z.re z.im

def complex? : Datum → Except Fault Complex
  | .complex re im => .ok ⟨re, im⟩
  | d => do return .ofFloat (← (← d.number?).toFloat?)

def isComplex (d : Datum) : Bool := d matches .complex _ _

def onComplex? (op : Complex → Complex → Except Fault Complex) (a b : Datum) :
    Except Fault Datum := do
  return ofComplex (← op (← a.complex?) (← b.complex?))

/-- An operation on numbers, complex ones among them. -/
def arith? (op : Number → Number → Except Fault Number)
    (wide : Complex → Complex → Except Fault Complex) (a b : Datum) : Except Fault Datum := do
  if a.isComplex || b.isComplex then return ← onComplex? wide a b
  return .one (.num (← op (← a.number?) (← b.number?)))

def noComplex (_ _ : Complex) : Except Fault Complex := .error .wrongKind

/-- Items repeated a number of times. -/
def repeated? {α : Type} (items : List α) (n : Int) : Except Fault (List α) := do
  return (List.replicate (← Value.times? items.length n) items).flatten

/-- `a * b` -/
def product? (a b : Datum) : Except Fault Datum :=
  match a, a.whole?, b, b.whole? with
  | .row .list items, _, _, some n | _, some n, .row .list items, _ =>
    (repeated? items n).map list
  | .row .tuple items, _, _, some n | _, some n, .row .tuple items, _ =>
    (repeated? items n).map tuple
  | .bytes codes, _, _, some n | _, some n, .bytes codes, _ => (repeated? codes n).map .bytes
  | .buffer codes, _, _, some n | _, some n, .buffer codes, _ => (repeated? codes n).map .buffer
  | .complex _ _, _, _, _ | _, _, .complex _ _, _ => onComplex? (fun x y => .ok (x.mul y)) a b
  | .one x, _, .one y, _ => (x.mul? y).map .one
  | _, _, _, _ => .error .wrongKind

/-- `a + b` -/
def sum? (a b : Datum) : Except Fault Datum :=
  match a, b, b.codes? with
  | .one x, .one y, _ => (x.add? y).map .one
  | .row .list x, .row .list y, _ => .ok (list (x ++ y))
  | .row .tuple x, .row .tuple y, _ => .ok (tuple (x ++ y))
  | .bytes x, _, some y => .ok (.bytes (x ++ y))
  | .buffer x, _, some y => .ok (.buffer (x ++ y))
  | .complex _ _, _, _ | _, .complex _ _, _ => onComplex? (fun x y => .ok (x.add y)) a b
  | _, _, _ => .error .wrongKind

/-- An operator between two values. -/
def binary? (op : String) (a b : Datum) : Except Fault Datum :=
  match op with
  | "+" => sum? a b
  | "-" => arith? Number.sub (fun x y => .ok (x.sub y)) a b
  | "*" => product? a b
  | "/" => arith? Number.div noComplex a b
  | "%" =>
    match a with
    | .one (.text template) => (Template.fill? template b.supply).map text
    | .bytes template => (fillBytes? template b).map .bytes
    | .buffer template => (fillBytes? template b).map .buffer
    | a => arith? Number.mod noComplex a b
  | _ => .error .wrongKind

/-- A sign before a value. -/
def signed? (op : String) (d : Datum) : Except Fault Datum :=
  match op, d with
  | "-", .complex re im => .ok (.complex (-re) (-im))
  | "+", .complex re im => .ok (.complex re im)
  | "-", d => do return .one (.num (← d.number?).neg)
  | "+", d => do return .one (.num (← d.number?))
  | _, _ => .error .wrongKind

/-! ## Comparisons -/

/-- `a < b`, or `a <= b` -/
def before? (orSame : Bool) : Datum → Datum → Except Fault Bool
  | .one a, .one b => if orSame then a.le? b else a.lt? b
  | _, _ => .error .wrongKind

/-- `part in whole` -/
def contains? (whole part : Datum) : Except Fault Bool :=
  match whole, part with
  | .one w, .one p => w.contains? p
  | .one (.text _), _ => .error .wrongKind
  | .record fields, p | .view .keys fields, p => do
    p.needName
    return (lookup? fields p).isSome
  | whole, p => do return has (← whole.elements?) p

end BlockStage.Expression.Datum
