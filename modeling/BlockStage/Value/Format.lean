import BlockStage.Text.Search
import BlockStage.Value.Template

/-!
# Layouts of values

A layout is written as a few characters: a fill character and an alignment, a sign, marks, a width, a
separator of groups of digits, a precision and a letter. Values that are no texts or numbers have only
the empty one.
-/

namespace BlockStage.Format

/-- A layout. -/
structure Spec where
  fill : Option Char := none
  align : Option Char := none
  sign : Option Char := none
  /-- Without a sign if nothing but zeros is written. -/
  plainZero : Bool := false
  /-- With the mark of the base, or with a point also if no digit follows. -/
  marked : Bool := false
  width : Nat := 0
  separator : Option Char := none
  precision : Option Nat := none
  letter : Option Char := none

/-! ## Reading -/

def isAlignment (c : Char) : Bool := c == '<' || c == '>' || c == '=' || c == '^'

/-- Takes the first character if it passes a test. -/
def taken (test : Char → Bool) : List Char → Option Char × List Char
  | c :: rest => if test c then (some c, rest) else (none, c :: rest)
  | [] => (none, [])

/-- Reads fill and alignment. -/
def alignment (cs : List Char) : Spec × List Char :=
  match cs with
  | f :: a :: rest =>
    if isAlignment a then ({ fill := some f, align := some a }, rest) else alone
  | _ => alone
where
  alone :=
    let (align, cs) := taken isAlignment cs
    ({ align }, cs)

/-- Reads sign and marks. -/
def marks (number : Bool) (spec : Spec) (cs : List Char) : Spec × List Char :=
  let (sign, cs) := taken "+- ".toList.contains cs
  let (plainZero, cs) := taken (· = 'z') cs
  let (marked, cs) := taken (· = '#') cs
  let spec := { spec with sign, plainZero := plainZero.isSome, marked := marked.isSome }
  match spec.fill, cs with
  | none, '0' :: rest =>
    let align := if spec.align.isNone && number then some '=' else spec.align
    ({ spec with fill := some '0', align := align }, rest)
  | _, cs => (spec, cs)

def isDecimal (c : Char) : Bool := (Text.decimalValue? c).isSome

/-- Reads a number. -/
def number? (cs : List Char) : Except Fault (Option Nat × List Char) :=
  let digits := cs.takeWhile isDecimal
  let n := digits.foldl (fun n c => n * 10 + (Text.decimalValue? c).getD 0) 0
  if digits.isEmpty then .ok (none, cs)
  else if Template.widthLimit < n then .error .badValue
  else .ok (some n, cs.dropWhile isDecimal)

/-- Reads a separator. -/
def separator? (cs : List Char) : Except Fault (Option Char × List Char) :=
  match cs with
  | ',' :: '_' :: _ | '_' :: ',' :: _ => .error .badValue
  | cs => .ok (taken (fun c => c = ',' || c = '_') cs)

/-- Reads a precision. -/
def precision? (cs : List Char) : Except Fault (Option Nat × List Char) :=
  match cs with
  | '.' :: rest => do
    let (some n, rest) ← number? rest | throw .badValue
    return (some n, rest)
  | cs => .ok (none, cs)

/-- Whether digits can be grouped in a notation. -/
def canGroup (separator letter : Option Char) : Bool :=
  match separator, letter with
  | none, _ | _, none => true
  | some s, some c =>
    "defgEG%F".toList.contains c || (s = '_' && "boxX".toList.contains c)

/-- Reads a layout. -/
def Spec.read? (number : Bool) (s : String) : Except Fault Spec := do
  let (spec, cs) := alignment s.toList
  let (spec, cs) := marks number spec cs
  let (width, cs) ← number? cs
  let (separator, cs) ← separator? cs
  let (precision, cs) ← precision? cs
  let letter ← match cs with
    | [] => pure none
    | [c] => pure (some c)
    | _ => throw .badValue
  if !canGroup separator letter then throw .badValue
  return { spec with width := width.getD 0, separator, precision, letter }

/-! ## Alignment -/

/-- Fills up to the width. -/
def aligned (spec : Spec) (default : Char) (cs : List Char) : List Char :=
  let fill := spec.fill.getD ' '
  let pad := spec.width - cs.length
  match spec.align.getD default with
  | '<' => cs ++ List.replicate pad fill
  | '^' => List.replicate (pad / 2) fill ++ cs ++ List.replicate (pad - pad / 2) fill
  | _ => List.replicate pad fill ++ cs

def needWidth (spec : Spec) : Except Fault Unit :=
  if Value.sizeLimit < spec.width then .error .outOfMemory else .ok ()

/-- A text in a layout. -/
def text? (spec : Spec) (s : String) : Except Fault String := do
  if spec.letter.any (· != 's') || spec.sign.isSome || spec.plainZero || spec.marked ||
      spec.separator.isSome || spec.align == some '=' then throw .badValue
  needWidth spec
  return String.ofList (aligned spec '<' (s.toList.take (spec.precision.getD s.length)))

/-! ## Numbers -/

/-- Digits in groups. -/
def grouped (separator : Option Char) (size : Nat) (digits : List Char) : List Char :=
  digits.zipIdx.flatMap fun (c, i) =>
    if i ≠ 0 && (digits.length - i) % size = 0 then separator.toList ++ [c] else [c]

/-- How many grouped digits fit in a width. -/
def digitsWithin (separator : Option Char) (size width : Nat) : Nat :=
  if separator.isNone || width = 0 then width else width - (width - 1) / (size + 1)

/-- A number in a layout, from its parts. -/
def number (spec : Spec) (size : Nat) (neg : Bool) (mark digits rest : List Char) : List Char :=
  let sign := if neg then ['-'] else (spec.sign.filter (· != '-')).toList
  let front := sign ++ mark
  let fill := spec.fill.getD ' '
  let inside := spec.align == some '='
  let zeros := if inside && fill = '0' && !digits.isEmpty then
      digitsWithin spec.separator size (spec.width - front.length - rest.length) - digits.length
    else 0
  let digits := grouped spec.separator size (List.replicate zeros '0' ++ digits)
  if inside then
    let pad := spec.width - front.length - digits.length - rest.length
    front ++ List.replicate pad fill ++ digits ++ rest
  else aligned spec '>' (front ++ digits ++ rest)

/-- An integer in another base. -/
def inBase (spec : Spec) (base : Nat) (letter : Char) (n : Int) : List Char :=
  let digits := Nat.toDigits base n.natAbs
  number spec 4 (decide (n < 0)) (if spec.marked then ['0', letter] else [])
    (if letter = 'X' then digits.map Char.toUpper else digits) []

def isDoubleLetter (c : Char) : Bool := "eEfFgG%".toList.contains c

/-- An integer in a layout. -/
def integer? (spec : Spec) (n : Int) : Except Fault (List Char) := do
  if spec.precision.isSome || spec.plainZero then throw .badValue
  needWidth spec
  match spec.letter with
  | none | some 'd' | some 'n' =>
    let _ ← intText? n
    return number spec 3 (decide (n < 0)) [] (Nat.toDigits 10 n.natAbs) []
  | some 'b' => return inBase spec 2 'b' n
  | some 'o' => return inBase spec 8 'o' n
  | some 'x' => return inBase spec 16 'x' n
  | some 'X' => return inBase spec 16 'X' n
  | some 'c' =>
    if spec.sign.isSome || spec.marked then throw .badValue
    if n < 0 || 0x110000 ≤ n then throw .overflow
    return number spec 3 false [] [] [Char.ofNat n.toNat]
  | _ => throw .badValue

/-- A double without its sign. -/
def magnitude (spec : Spec) (x : Float) : List Char :=
  match Binary.dyadic? x with
  | none => if x.isNaN then ['n', 'a', 'n'] else ['i', 'n', 'f']
  | some d =>
    let (num, den) := if 0 ≤ d.exp then (d.mant * Binary.twoTo d.exp.toNat, 1)
      else (d.mant, Binary.twoTo (-d.exp).toNat)
    let l : Template.Layout := { marked := spec.marked }
    let places := spec.precision.getD 6
    match spec.letter, spec.precision with
    | none, none => (floatText x.abs).toList
    | some 'f', _ | some 'F', _ | some '%', _ => Template.fixed l places num den
    | some 'e', _ | some 'E', _ => Template.withExponent l places num den
    | _, _ => Template.general l places num den

def isNegative (x : Float) : Bool := !x.isNaN && Binary.twoTo 63 ≤ x.toBits.toNat

def split (spec : Spec) (neg : Bool) (cs : List Char) : List Char :=
  let (digits, rest) := cs.span Reading.isAsciiDigit
  number spec 3 neg [] digits rest

/-- A double in a layout. -/
def double? (spec : Spec) (x : Float) : Except Fault (List Char) := do
  if spec.letter.any fun c => c != 'n' && !isDoubleLetter c then throw .badValue
  if Template.precisionLimit < spec.precision.getD 0 then throw .badValue
  needWidth spec
  Template.needPlaces (spec.letter.getD 'g')
    { marked := spec.marked, precision := spec.precision }
  let x := if spec.letter == some '%' then x * 100 else x
  let cs := magnitude spec x
  let cs := if spec.letter.any Char.isUpper then cs.map Char.toUpper else cs
  let cs := if spec.letter == some '%' then cs ++ ['%'] else cs
  let isZero := !cs.any fun c => '1' ≤ c && c ≤ '9'
  return split spec (isNegative x && !(spec.plainZero && isZero && x.isFinite)) cs

def wholeNumber? (spec : Spec) (n : Int) : Except Fault (List Char) := do
  if spec.letter.any isDoubleLetter then double? spec (← Binary.ofInt? n)
  else integer? spec n

end BlockStage.Format

namespace BlockStage.Value

/-- `format(v, spec)` -/
def format? (v : Value) (spec : String) : Except Fault String := do
  if spec.isEmpty then return ← v.display?
  let whole (n : Int) := do Format.wholeNumber? (← Format.Spec.read? true spec) n
  match v with
  | .text s => Format.text? (← Format.Spec.read? false spec) s
  | .num (.int n) => return String.ofList (← whole n)
  | .bool b => return String.ofList (← whole (if b then 1 else 0))
  | .num (.float x) => return String.ofList (← Format.double? (← Format.Spec.read? true spec) x)
  | _ => throw .wrongKind

end BlockStage.Value
