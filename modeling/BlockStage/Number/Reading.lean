import BlockStage.Number.Display
import BlockStage.Text.Digit

/-!
# Reading numbers

Blanks may surround a number, a single underscore may stand between two digits, and digits may come
from any script.

* integer: a sign and digits;
* double: a sign and digits with a point and an exponent, or the words `inf`, `infinity`, `nan`.
-/

namespace BlockStage.Reading

/-- The characters of a number with its digits brought to ASCII. -/
def normalise (s : String) : List Char :=
  (Text.trimBlanks s.toList).map fun c =>
    match Text.decimalValue? c with
    | some v => Char.ofNat (48 + v)
    | none => c

def isAsciiDigit (c : Char) : Bool := '0' ≤ c && c ≤ '9'

/-- The text without its underscores; none if one does not stand between two digits. -/
def joinDigits : Bool → List Char → Option (List Char)
  | _, [] => some []
  | afterDigit, '_' :: c :: rest =>
    if afterDigit && isAsciiDigit c then (joinDigits true rest).map (c :: ·) else none
  | _, c :: rest =>
    if c = '_' then none
    else (joinDigits (isAsciiDigit c) rest).map (c :: ·)

/-- A sign, and the rest. -/
def splitSign : List Char → Bool × List Char
  | '-' :: rest => (true, rest)
  | '+' :: rest => (false, rest)
  | cs => (false, cs)

def digitsValue (cs : List Char) : Nat := cs.foldl (fun n c => n * 10 + (c.toNat - 48)) 0

/-- `int(s)` -/
def int? (s : String) : Option Int :=
  match joinDigits false (normalise s) with
  | none => none
  | some cs =>
    let (neg, digits) := splitSign cs
    if digits.isEmpty || !digits.all isAsciiDigit || digitLimit < digits.length then none
    else some (Binary.signed neg (digitsValue digits))

/-- An exponent, or nothing. -/
def exponent? : List Char → Option Int
  | [] => some 0
  | c :: rest =>
    if c = 'e' || c = 'E' then
      let (neg, digits) := splitSign rest
      if digits.isEmpty || !digits.all isAsciiDigit then none
      else some (Binary.signed neg (digitsValue digits))
    else none

/-- Beyond this many powers of ten every double is infinite or zero. -/
def exponentReach : Int := 400

/-- The double nearest to `digits * 10 ^ exp`. -/
def scaled (neg : Bool) (digits : List Char) (exp : Int) : Float :=
  let cs := digits.dropWhile (· == '0')
  let lead : Int := exp + cs.length
  if cs.isEmpty || lead < -exponentReach then Binary.ofMagnitude neg 0
  else if exponentReach < lead then Binary.ofMagnitude neg Binary.infinityBits
  else Decimal.toDouble neg ⟨digitsValue cs, exp⟩

/-- Digits with a point and an exponent. -/
def decimal? (neg : Bool) (cs : List Char) : Option Float :=
  let whole := cs.takeWhile isAsciiDigit
  let (fraction, rest) := match cs.dropWhile isAsciiDigit with
    | '.' :: after => (after.takeWhile isAsciiDigit, after.dropWhile isAsciiDigit)
    | after => ([], after)
  if whole.isEmpty && fraction.isEmpty then none
  else (exponent? rest).map fun e => scaled neg (whole ++ fraction) (e - fraction.length)

/-- `float(s)` -/
def float? (s : String) : Option Float :=
  match joinDigits false (normalise s) with
  | none => none
  | some cs =>
    let (neg, body) := splitSign cs
    let word := String.ofList (body.map Char.toLower)
    if word = "inf" || word = "infinity" then some (Binary.ofMagnitude neg Binary.infinityBits)
    else if word = "nan" then some (Binary.ofMagnitude neg (Binary.infinityBits + Binary.twoTo 51))
    else decimal? neg body

/-- The parts between points. -/
def splitPoints : List Char → List (List Char)
  | [] => [[]]
  | c :: rest =>
    if c = '.' then [] :: splitPoints rest
    else
      match splitPoints rest with
      | part :: parts => (c :: part) :: parts
      | [] => [[c]]

/-- `IsNum` -/
def looksNumeric (s : String) : Bool :=
  let parts := splitPoints s.toList
  parts.length ≤ 2 && parts.all fun part => !part.isEmpty && part.all Text.isDigit

end BlockStage.Reading
