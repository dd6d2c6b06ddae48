import BlockStage.Number.Binary

/-!
# The shortest decimal that reads back

A double stands for every real number that rounds to it. The digits written for it are the fewest that
lie in that set, and of those the nearest to its exact value.
-/

namespace BlockStage

/-- `digits * 10 ^ exp`, a positive decimal. -/
structure Decimal where
  digits : Nat
  exp : Int
  deriving DecidableEq, Repr

namespace Decimal

def tenTo (k : Nat) : Nat := Nat.pow 10 k

def fraction (d : Decimal) : Nat × Nat :=
  if 0 ≤ d.exp then (d.digits * tenTo d.exp.toNat, 1) else (d.digits, tenTo (-d.exp).toNat)

/-- The double nearest to a decimal. -/
def toDouble (neg : Bool) (d : Decimal) : Float :=
  Binary.nearest neg d.fraction.1 d.fraction.2

/-- The exponent of the leading digit of `num / den`, found from its size in bits. -/
def leadingExp (num den : Nat) : Int :=
  let guess : Int := Int.fdiv (((num.log2 : Int) - den.log2) * 30103) 100000
  let atLeast (e : Int) : Bool :=
    if 0 ≤ e then den * tenTo e.toNat ≤ num else den ≤ num * tenTo (-e).toNat
  if atLeast (guess + 1) then guess + 1 else if atLeast guess then guess else guess - 1

/-- The two neighbours of `num / den` on the grid of multiples of `10 ^ exp`, the nearer or the even one first. -/
def neighbours (num den : Nat) (exp : Int) : List Decimal :=
  let (n, d) := if 0 ≤ exp then (num, den * tenTo exp.toNat) else (num * tenTo (-exp).toNat, den)
  let q := n / d
  if Binary.divEven n d = q then [⟨q, exp⟩, ⟨q + 1, exp⟩] else [⟨q + 1, exp⟩, ⟨q, exp⟩]

/-- The first decimal with `count`, `count + 1`, … digits that reads back as `x`. -/
def search (x : Float) (num den : Nat) (lead : Int) : Nat → Nat → Option Decimal
  | 0, _ => none
  | left + 1, count =>
    match (neighbours num den (lead - count + 1)).find? fun d =>
        (d.toDouble false).toBits == x.toBits with
    | some d => some d
    | none => search x num den lead left (count + 1)

def enoughDigits : Nat := 17

/-- The shortest decimal that reads back. -/
def ofDouble? (x : Float) : Option Decimal :=
  match Binary.dyadic? x with
  | none => none
  | some e =>
    let (num, den) :=
      if 0 ≤ e.exp then (e.mant * Binary.twoTo e.exp.toNat, 1)
      else (e.mant, Binary.twoTo (-e.exp).toNat)
    search x num den (leadingExp num den) enoughDigits 1

end Decimal

end BlockStage
