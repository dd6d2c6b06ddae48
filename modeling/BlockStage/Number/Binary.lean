import BlockStage.Fault

/-!
# Doubles as exact numbers

A finite double is an integer times a power of two. This module takes a double apart, rounds a fraction
to the nearest double, and builds the operations on these two.
-/

namespace BlockStage

/-- A finite double: `mant * 2 ^ exp`, negated if `neg`. -/
structure Dyadic where
  neg : Bool
  mant : Nat
  exp : Int
  deriving DecidableEq, Repr

namespace Binary

def twoTo (k : Nat) : Nat := Nat.pow 2 k

def mantissaBits : Nat := 52

def leastExp : Int := -1074

/-- Takes a finite double apart. -/
def dyadic? (x : Float) : Option Dyadic :=
  let bits := x.toBits.toNat
  let neg := twoTo 63 ≤ bits
  let field := bits / twoTo mantissaBits % 2048
  let low := bits % twoTo mantissaBits
  if field = 2047 then none
  else if field = 0 then some ⟨neg, low, leastExp⟩
  else some ⟨neg, twoTo mantissaBits + low, leastExp + (field - 1)⟩

/-- A double from its sign and its other bits. -/
def ofMagnitude (neg : Bool) (bits : Nat) : Float :=
  Float.ofBits (UInt64.ofNat ((if neg then twoTo 63 else 0) + bits))

def infinityBits : Nat := 2047 * twoTo mantissaBits

def infinity : Float := ofMagnitude false infinityBits

def notANumber : Float := ofMagnitude false (infinityBits + twoTo 51)

/-- A quotient rounded to the nearest integer, a tie to the even one. -/
def divEven (num den : Nat) : Nat :=
  let q := num / den
  let r := num % den
  if 2 * r < den then q
  else if den < 2 * r then q + 1
  else q + q % 2

/-- `num / den / 2 ^ exp`, rounded so. -/
def scaledEven (num den : Nat) (exp : Int) : Nat :=
  if 0 ≤ exp then divEven num (den * twoTo exp.toNat) else divEven (num * twoTo (-exp).toNat) den

/-- Either this or the one above it is the exponent of the double nearest to `num / den`. -/
def exponentBelow (num den : Nat) : Int :=
  (num.log2 : Int) - den.log2 - 53

/-- The double nearest to `num / den`, a tie to the even mantissa; too large a number becomes infinity. `den` is
positive. -/
def nearest (neg : Bool) (num den : Nat) : Float :=
  if num = 0 then ofMagnitude neg 0
  else
    let low := exponentBelow num den
    let whole :=
      if 0 ≤ low then num / (den * twoTo low.toNat) else num * twoTo (-low).toNat / den
    let exp := max leastExp (if whole < twoTo 53 then low else low + 1)
    let bits := (exp - leastExp).toNat * twoTo mantissaBits + scaledEven num den exp
    ofMagnitude neg (min bits infinityBits)

/-- Puts a double together. -/
def ofDyadic (d : Dyadic) : Float :=
  if 0 ≤ d.exp then nearest d.neg (d.mant * twoTo d.exp.toNat) 1
  else nearest d.neg d.mant (twoTo (-d.exp).toNat)

/-- The double nearest to an integer. -/
def ofInt? (n : Int) : Except Fault Float :=
  let x := nearest (decide (n < 0)) n.natAbs 1
  if (dyadic? x).isSome then .ok x else .error .overflow

/-- The double nearest to a quotient; it is negative if just one integer is, also if it is zero. -/
def ofQuotient? (a b : Int) : Except Fault Float :=
  if b = 0 then .error .divisionByZero
  else
    let x := nearest (decide (a < 0) != decide (b < 0)) a.natAbs b.natAbs
    if (dyadic? x).isSome then .ok x else .error .overflow

/-- Why a double that is not finite has no integer. -/
def faultOf (x : Float) : Fault := if x.isNaN then .badValue else .overflow

def signed (neg : Bool) (n : Nat) : Int := if neg then -(n : Int) else n

/-- Drops the fraction. -/
def truncate? (x : Float) : Except Fault Int :=
  match dyadic? x with
  | none => .error (faultOf x)
  | some d =>
    .ok (signed d.neg
      (if 0 ≤ d.exp then d.mant * twoTo d.exp.toNat else d.mant / twoTo (-d.exp).toNat))

/-- The nearest integer, a tie to the even one. -/
def round? (x : Float) : Except Fault Int :=
  match dyadic? x with
  | none => .error (faultOf x)
  | some d =>
    .ok (signed d.neg
      (if 0 ≤ d.exp then d.mant * twoTo d.exp.toNat else divEven d.mant (twoTo (-d.exp).toNat)))

/-- Two doubles as multiples of one power of two. -/
def aligned (a b : Dyadic) : Int × Int × Int :=
  let exp := min a.exp b.exp
  (signed a.neg (a.mant * twoTo (a.exp - exp).toNat),
    signed b.neg (b.mant * twoTo (b.exp - exp).toNat),
    exp)

/-- The remainder with the sign of the divisor. -/
def floorMod (x w : Dyadic) : Float :=
  let (a, b, exp) := aligned x w
  let r := Int.fmod a b
  if r = 0 then ofMagnitude w.neg 0 else ofDyadic ⟨decide (r < 0), r.natAbs, exp⟩

/-- The remainder with the sign of the divisor. Moving it to the other side of zero rounds once. -/
def mod? (x w : Float) : Except Fault Float :=
  if w == 0 then .error .divisionByZero
  else
    match dyadic? x, dyadic? w with
    | some a, some b => .ok (floorMod a b)
    | some a, none =>
      if w.isNaN then .ok w
      else if a.mant = 0 then .ok (ofMagnitude (decide (w < 0)) 0)
      else if a.neg == decide (w < 0) then .ok x else .ok w
    | none, _ => .ok notANumber

/-- Compares an integer with a double exactly. -/
def compareInt? (n : Int) (x : Float) : Option Ordering :=
  match dyadic? x with
  | some d =>
    let (a, b, _) := aligned ⟨decide (n < 0), n.natAbs, 0⟩ d
    some (compare a b)
  | none => if x.isNaN then none else some (if x < 0 then .gt else .lt)

end Binary

end BlockStage
