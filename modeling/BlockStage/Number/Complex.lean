import BlockStage.Number.Basic

/-!
# Complex numbers

Sums, products and sizes of pairs of doubles.
-/

namespace BlockStage

/-- A `complex`. -/
structure Complex where
  re : Float
  im : Float

namespace Complex

def ofFloat (x : Float) : Complex := ⟨x, 0⟩

def add (a b : Complex) : Complex := ⟨a.re + b.re, a.im + b.im⟩

def sub (a b : Complex) : Complex := ⟨a.re - b.re, a.im - b.im⟩

def mul (a b : Complex) : Complex := ⟨a.re * b.re - a.im * b.im, a.re * b.im + a.im * b.re⟩

/-- The integer whose square is the largest up to `n`, by halving an interval `k` times. -/
def rootBelow : Nat → Nat → Nat → Nat → Nat
  | 0, low, _, _ => low
  | k + 1, low, high, n =>
    if high ≤ low + 1 then low
    else
      let mid := (low + high) / 2
      if mid * mid ≤ n then rootBelow k mid high n else rootBelow k low mid n

/-- `math.hypot` -/
def hypot (x y : Float) : Float :=
  match Binary.dyadic? x, Binary.dyadic? y with
  | some a, some b =>
    let low := min a.exp b.exp
    let m := a.mant * Binary.twoTo (a.exp - low).toNat
    let n := b.mant * Binary.twoTo (b.exp - low).toNat
    let square := (m * m + n * n) * Binary.twoTo 128
    let bits := square.log2 / 2 + 2
    let root := rootBelow bits 0 (Binary.twoTo bits) square
    let root := 2 * root + (if root * root = square then 0 else 1)
    let scale := low - 65
    if 0 ≤ scale then Binary.nearest false (root * Binary.twoTo scale.toNat) 1
    else Binary.nearest false root (Binary.twoTo (-scale).toNat)
  | _, _ =>
    if x.isInf || y.isInf then Binary.infinity else Binary.notANumber

/-- `abs(z)` -/
def abs? (z : Complex) : Except Fault Float :=
  let r := hypot z.re z.im
  if r.isInf && z.re.isFinite && z.im.isFinite then .error .overflow else .ok r

end Complex

end BlockStage
