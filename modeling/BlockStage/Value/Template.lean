import BlockStage.Value.Display

/-!
# Templates

A template is a text with directives into which arguments are put. A directive is a percent sign,
flags, a width, a precision and a letter that says how the argument is written.

Each argument is used once and in order: by a letter, or by a star in the place of a width or a
precision. A directive with a name in brackets takes the argument of that name instead.
-/

namespace BlockStage.Template

/-! ## Arguments -/

/-- How an argument shows, how it shows inside a list, the value that it counts as where a number or a character
is needed, and its bytes in a template of bytes. -/
structure Argument where
  display : Except Fault String
  quoted : Except Fault String
  value : Value
  raw : Except Fault String := .error .badValue

def Argument.ofValue (v : Value) : Argument where
  display := v.display?
  quoted := v.quoted?
  value := v

/-- The arguments that are left. -/
structure Supply where
  rest : List Argument
  named? : Option (String → Except Fault Argument) := none

/-- Takes an argument. -/
def Supply.next? (s : Supply) : Except Fault (Argument × Supply) :=
  match s.rest with
  | [] => .error .wrongKind
  | a :: rest => .ok (a, { s with rest := rest })

/-- All arguments have to be used. -/
def Supply.finish? (s : Supply) : Except Fault Unit :=
  if s.rest.isEmpty || s.named?.isSome then .ok () else .error .wrongKind

/-- A value as the only argument. -/
def Supply.ofValue (v : Value) : Supply where
  rest := [.ofValue v]
  named? := match v with
    | .record _ => some fun name => (v.field? name).map .ofValue
    | .list _ => some fun _ => .error .wrongKind
    | _ => none

/-! ## Layouts -/

/-- Flags, width and precision. -/
structure Layout where
  left : Bool := false
  plus : Bool := false
  blank : Bool := false
  marked : Bool := false
  zeros : Bool := false
  width : Nat := 0
  precision : Option Nat := none

/-! ## Reading a directive -/

/-- Reads flags. -/
def flags : Layout → List Char → Layout × List Char
  | l, '-' :: rest => flags { l with left := true } rest
  | l, '+' :: rest => flags { l with plus := true } rest
  | l, ' ' :: rest => flags { l with blank := true } rest
  | l, '#' :: rest => flags { l with marked := true } rest
  | l, '0' :: rest => flags { l with zeros := true } rest
  | l, cs => (l, cs)

def widthLimit : Nat := 9223372036854775807

def precisionLimit : Nat := 2147483647

/-- Reads a size: a star, which takes an argument, or digits, which may be missing. -/
def size? (limit : Nat) (supply : Supply) (cs : List Char) :
    Except Fault (Option Int × Supply × List Char) :=
  match cs with
  | '*' :: rest => do
    let (a, supply) ← supply.next?
    match a.value.whole? with
    | none => throw .wrongKind
    | some n =>
      if (limit : Int) < n || n < -(limit : Int) - 1 then throw .overflow
      return (some n, supply, rest)
  | cs =>
    let digits := cs.takeWhile Reading.isAsciiDigit
    let n := Reading.digitsValue digits
    if digits.isEmpty then .ok (none, supply, cs)
    else if limit < n then .error .badValue
    else .ok (some (n : Int), supply, cs.dropWhile Reading.isAsciiDigit)

/-- The characters up to the bracket that closes `depth` open ones, and the rest. -/
def bracketed? : Nat → List Char → Option (List Char × List Char)
  | _, [] => none
  | depth, c :: rest =>
    let depth := if c = '(' then depth + 1 else if c = ')' then depth - 1 else depth
    if depth = 0 then some ([], rest)
    else (bracketed? depth rest).map fun (name, after) => (c :: name, after)

/-- Reads a name in brackets. -/
def name? (supply : Supply) (cs : List Char) : Except Fault (Supply × List Char) :=
  match cs, supply.named? with
  | '(' :: _, none => .error .wrongKind
  | '(' :: rest, some named =>
    match bracketed? 1 rest with
    | none => .error .badValue
    | some (name, rest) => do
      return ({ supply with rest := [← named (String.ofList name)] }, rest)
  | cs, _ => .ok (supply, cs)

/-- Reads a directive up to its letter. One letter for the length of a number may stand before that. -/
def directive? (supply : Supply) (cs : List Char) :
    Except Fault (Layout × Supply × List Char) := do
  let (supply, cs) ← name? supply cs
  let (l, cs) := flags {} cs
  let (width, supply, cs) ← size? widthLimit supply cs
  let l := match width with
    | some w => { l with left := l.left || w < 0, width := w.natAbs }
    | none => l
  let (l, supply, cs) ← match cs with
    | '.' :: rest => do
      let (precision, supply, rest) ← size? precisionLimit supply rest
      pure ({ l with precision := some (precision.getD 0).toNat }, supply, rest)
    | cs => pure (l, supply, cs)
  let cs := match cs with
    | 'h' :: rest | 'l' :: rest | 'L' :: rest => rest
    | cs => cs
  return (l, supply, cs)

/-! ## Writing a value -/

/-- Fills a text up to the width. -/
def setText (l : Layout) (cs : List Char) : List Char :=
  let pad := List.replicate (l.width - cs.length) ' '
  if l.left then cs ++ pad else pad ++ cs

/-- A number in a layout, from its parts. -/
def setNumber (l : Layout) (neg : Bool) (mark digits : List Char) : List Char :=
  let sign := if neg then ['-'] else if l.plus then ['+'] else if l.blank then [' '] else []
  let body := sign ++ mark ++ digits
  if l.left || !l.zeros then setText l body
  else sign ++ mark ++ List.replicate (l.width - body.length) '0' ++ digits

/-- Digits in a base, with a precision. -/
def digitsIn (base : Nat) (l : Layout) (n : Nat) : List Char :=
  let cs := Nat.toDigits base n
  List.replicate (l.precision.getD 0 - cs.length) '0' ++ cs

/-- Fails if a precision asks for too many digits. -/
def needDigits (l : Layout) : Except Fault Unit :=
  if precisionLimit - 3 < l.precision.getD 0 then .error .overflow
  else if Value.sizeLimit < l.precision.getD 0 then .error .outOfMemory
  else .ok ()

/-- Fails if a precision asks for more digits of a double than can be held. -/
def needPlaces (letter : Char) (l : Layout) : Except Fault Unit :=
  if (letter.toLower != 'g' || l.marked) && Value.sizeLimit < l.precision.getD 0 then
    .error .outOfMemory
  else .ok ()

/-- `%d` -/
def decimal? (l : Layout) (n : Int) : Except Fault (List Char) := do
  let _ ← intText? n
  needDigits l
  return setNumber l (decide (n < 0)) [] (digitsIn 10 l n.natAbs)

/-- `%o`, `%x` and `%X` -/
def inBase? (base : Nat) (letter : Char) (l : Layout) (n : Int) : Except Fault (List Char) := do
  needDigits l
  let mark := if l.marked then ['0', letter] else []
  let digits := digitsIn base l n.natAbs
  return setNumber l (decide (n < 0)) mark
    (if letter = 'X' then digits.map Char.toUpper else digits)

/-! ## Decimals -/

/-- Puts a point before the last `places` of some digits. -/
def pointed (l : Layout) (places : Nat) (digits : List Char) : List Char :=
  let digits := List.replicate (places + 1 - digits.length) '0' ++ digits
  let whole := digits.take (digits.length - places)
  let fraction := digits.drop (digits.length - places)
  whole ++ (if fraction.isEmpty && !l.marked then [] else '.' :: fraction)

/-- `%f` -/
def fixed (l : Layout) (places num den : Nat) : List Char :=
  pointed l places (Nat.toDigits 10 (Binary.divEven (num * Decimal.tenTo places) den))

/-- The digits and the exponent in the scientific notation. -/
def scientific (places num den : Nat) : Nat × Int :=
  if num = 0 then (0, 0)
  else
    let lead := Decimal.leadingExp num den
    let exp := lead - places
    let n := if 0 ≤ exp then Binary.divEven num (den * Decimal.tenTo exp.toNat)
      else Binary.divEven (num * Decimal.tenTo (-exp).toNat) den
    if n < Decimal.tenTo (places + 1) then (n, lead) else (n / 10, lead + 1)

def exponent (exp : Int) : List Char :=
  let cs := Nat.toDigits 10 exp.natAbs
  'e' :: (if exp < 0 then '-' else '+') :: List.replicate (2 - cs.length) '0' ++ cs

/-- `%e` -/
def withExponent (l : Layout) (places num den : Nat) : List Char :=
  let (n, exp) := scientific places num den
  pointed l places (Nat.toDigits 10 n) ++ exponent exp

/-- Without the zeros at the end. -/
def trimmed (cs : List Char) : List Char :=
  if cs.contains '.' then
    ((cs.reverse.dropWhile (· == '0')).dropWhile (· == '.')).reverse
  else cs

def enoughDigits : Nat := 2000

/-- `%g` -/
def general (l : Layout) (count num den : Nat) : List Char :=
  let count := max 1 (if l.marked then count else min enoughDigits count)
  let (n, exp) := scientific (count - 1) num den
  let trim (cs : List Char) : List Char := if l.marked then cs else trimmed cs
  if exp < -4 || (count : Int) ≤ exp then
    trim (pointed l (count - 1) (Nat.toDigits 10 n)) ++ exponent exp
  else trim (fixed l ((count : Int) - 1 - exp).toNat num den)

/-- A double in a layout. -/
def double (letter : Char) (l : Layout) (x : Float) : List Char :=
  let places := l.precision.getD 6
  let neg := !x.isNaN && Binary.twoTo 63 ≤ x.toBits.toNat
  let digits := match Binary.dyadic? x with
    | none => if x.isNaN then ['n', 'a', 'n'] else ['i', 'n', 'f']
    | some d =>
      let (num, den) := if 0 ≤ d.exp then (d.mant * Binary.twoTo d.exp.toNat, 1)
        else (d.mant, Binary.twoTo (-d.exp).toNat)
      match letter.toLower with
      | 'f' => fixed l places num den
      | 'e' => withExponent l places num den
      | _ => general l places num den
  setNumber l neg [] (if letter.isUpper then digits.map Char.toUpper else digits)

/-! ## Filling in -/

/-- Other characters as escapes. -/
def asciiOnly (cs : List Char) : List Char :=
  cs.flatMap fun c =>
    if c.toNat < 0x80 then [c]
    else if c.toNat < 0x100 then ['\\', 'x'] ++ Text.hex 2 c.toNat
    else if c.toNat < 0x10000 then ['\\', 'u'] ++ Text.hex 4 c.toNat
    else ['\\', 'U'] ++ Text.hex 8 c.toNat

def shown (l : Layout) (s : String) : List Char :=
  setText l (match l.precision with
    | some n => s.toList.take n
    | none => s.toList)

/-- `%c` -/
def character? : Value → Except Fault Char
  | .text s =>
    match s.toList with
    | [c] => .ok c
    | _ => .error .wrongKind
  | v =>
    match v.whole? with
    | some n => if 0 ≤ n && n < 0x110000 then .ok (Char.ofNat n.toNat) else .error .overflow
    | none => .error .wrongKind

/-- An argument in a layout. -/
def writeWithin? (letter : Char) (l : Layout) (a : Argument) : Except Fault (List Char) :=
  match letter with
  | 's' => a.display.map (shown l)
  | 'b' => a.raw.map (shown l)
  | 'r' => a.quoted.map (shown l)
  | 'a' => a.quoted.map fun s => shown l (String.ofList (asciiOnly s.toList))
  | 'd' | 'i' | 'u' => do decimal? l (← (← a.value.number?).truncate?)
  | 'o' | 'x' | 'X' =>
    match a.value.whole? with
    | some n => inBase? (if letter = 'o' then 8 else 16) letter l n
    | none => .error .wrongKind
  | 'e' | 'E' | 'f' | 'F' | 'g' | 'G' => do
    let x ← (← a.value.number?).toFloat?
    needPlaces letter l
    return double letter l x
  | 'c' => (character? a.value).map fun c => setText l [c]
  | _ => .error .badValue

/-- An argument in a layout that can be held. -/
def write? (letter : Char) (l : Layout) (a : Argument) : Except Fault (List Char) := do
  if l.width ≤ Value.sizeLimit then writeWithin? letter l a
  else
    let _ ← writeWithin? letter { l with width := 0 } a
    throw .outOfMemory

/-- Fills the directives in; the first argument bounds the steps. -/
def go : Nat → Supply → List Char → Except Fault (List Char)
  | 0, _, _ => .error .badValue
  | _, supply, [] => supply.finish?.map fun _ => []
  | n + 1, supply, '%' :: '%' :: rest => return '%' :: (← go n supply rest)
  | n + 1, supply, '%' :: rest => do
    let (l, supply, cs) ← directive? supply rest
    match cs with
    | [] => throw .badValue
    | letter :: rest =>
      let (a, supply) ← supply.next?
      let written ← write? letter l a
      return written ++ (← go n supply rest)
  | n + 1, supply, c :: rest => return c :: (← go n supply rest)

/-- Fills a template in. -/
def fill? (template : String) (supply : Supply) : Except Fault String :=
  (go (template.length + 1) supply template.toList).map String.ofList

end BlockStage.Template

namespace BlockStage.Value

/-- `a % b`: the remainder of two numbers, or a template filled in. -/
def mod? : Value → Value → Except Fault Value
  | .text template, v => (Template.fill? template (.ofValue v)).map .text
  | a, b => arith? Number.mod a b

end BlockStage.Value
