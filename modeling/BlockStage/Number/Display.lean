import BlockStage.Number.Shortest

/-!
# Numbers as text

Integers are written in full, up to a limit on their length. Doubles are written with the fewest digits
that read back.
-/

namespace BlockStage

/-- Which exponents of the leading digit are written positionally. -/
structure DecimalLayout where
  leastPositional : Int
  greatestPositional : Int
  exponentWidth : Nat

/-- Numbers on the stage: `0.0001` but `1e-05`, `1000000000000000.0` but `1e+16`. -/
def stageLayout : DecimalLayout := ⟨-4, 15, 2⟩

def natText (n : Nat) : String := String.ofList (Nat.toDigits 10 n)

def intText (n : Int) : String :=
  if n < 0 then "-" ++ natText n.natAbs else natText n.natAbs

/-- The most digits of an integer that is written or read. -/
def digitLimit : Nat := 4300

/-- `str(n)` -/
def intText? (n : Int) : Except Fault String :=
  let t := natText n.natAbs
  if digitLimit < t.length then .error .badValue else .ok (if n < 0 then "-" ++ t else t)

namespace DecimalLayout

def tail (cs : List Char) : List Char := if cs.isEmpty then ['0'] else cs

/-- A decimal in a layout. -/
def text (layout : DecimalLayout) (d : Decimal) : String :=
  let all := Nat.toDigits 10 d.digits
  let cs := (all.reverse.dropWhile (· == '0')).reverse
  let lead : Int := d.exp + all.length - 1
  if lead < layout.leastPositional || layout.greatestPositional < lead then
    let mark := if lead < 0 then "e-" else "e+"
    let power := natText lead.natAbs
    let pad := String.ofList (List.replicate (layout.exponentWidth - power.length) '0')
    let body := match cs with
      | c :: [] => [c]
      | c :: rest => c :: '.' :: rest
      | [] => []
    String.ofList body ++ mark ++ pad ++ power
  else if lead < 0 then
    String.ofList ("0.".toList ++ List.replicate (-lead - 1).toNat '0' ++ cs)
  else
    let width := lead.toNat + 1
    let whole := cs.take width ++ List.replicate (width - cs.length) '0'
    String.ofList (whole ++ ['.'] ++ tail (cs.drop width))

end DecimalLayout

/-- `str(x)` -/
def floatText (x : Float) : String :=
  if x.isNaN then "nan"
  else
    let sign := if Binary.twoTo 63 ≤ x.toBits.toNat then "-" else ""
    if x == 0 then sign ++ "0.0"
    else
      match Decimal.ofDouble? x.abs with
      | some d => sign ++ stageLayout.text d
      | none => sign ++ "inf"

end BlockStage
