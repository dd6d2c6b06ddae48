import BlockStage.Number.Display

/-!
# Numbers

An operation on two integers is exact, and one double makes the result a double. An integer that meets
a double has to fit into one.
-/

namespace BlockStage

/-- An `int` or a `float`. -/
inductive Number where
  | int (n : Int)
  | float (x : Float)
  deriving Inhabited

namespace Number

/-- `float(n)` -/
def toFloat? : Number → Except Fault Float
  | .int n => Binary.ofInt? n
  | .float x => .ok x

/-- `int(n)` -/
def truncate? : Number → Except Fault Int
  | .int n => .ok n
  | .float x => Binary.truncate? x

/-- An operation on integers or on doubles. -/
def lift (onInt : Int → Int → Int) (onFloat : Float → Float → Float) :
    Number → Number → Except Fault Number
  | .int a, .int b => .ok (.int (onInt a b))
  | a, b => do
    let x ← a.toFloat?
    let y ← b.toFloat?
    .ok (.float (onFloat x y))

/-- The operators `+`, `-`, `*`, `/` and `%`. -/
def add : Number → Number → Except Fault Number := lift (· + ·) (· + ·)

def sub : Number → Number → Except Fault Number := lift (· - ·) (· - ·)

def mul : Number → Number → Except Fault Number := lift (· * ·) (· * ·)

def neg : Number → Number
  | .int n => .int (-n)
  | .float x => .float (-x)

def div : Number → Number → Except Fault Number
  | .int a, .int b => (Binary.ofQuotient? a b).map .float
  | a, b => do
    let x ← a.toFloat?
    let y ← b.toFloat?
    if y == 0 then .error .divisionByZero else .ok (.float (x / y))

def mod : Number → Number → Except Fault Number
  | .int a, .int b => if b = 0 then .error .divisionByZero else .ok (.int (Int.fmod a b))
  | a, b => do
    let x ← a.toFloat?
    let y ← b.toFloat?
    (Binary.mod? x y).map .float

def abs : Number → Number
  | .int n => .int n.natAbs
  | .float x => .float x.abs

/-- `n // 2`; an infinite double has none. A double is rounded before it is halved too, which is exact for the
smallest ones. -/
def half : Number → Number
  | .int n => .int (Int.fdiv n 2)
  | .float x => .float (if x.isInf then Binary.notANumber else (x.floor / 2).floor)

/-- `round(n)` -/
def round? : Number → Except Fault Int
  | .int n => .ok n
  | .float x => Binary.round? x

/-- Compares exactly across kinds. -/
def compare? : Number → Number → Option Ordering
  | .int a, .int b => some (compare a b)
  | .int a, .float y => Binary.compareInt? a y
  | .float x, .int b => (Binary.compareInt? b x).map Ordering.swap
  | .float x, .float y =>
    if x < y then some .lt else if y < x then some .gt else if x == y then some .eq else none

def lt (a b : Number) : Bool := a.compare? b == some .lt

def le (a b : Number) : Bool := a.compare? b == some .lt || a.compare? b == some .eq

theorem lt_int (a b : Int) : lt (.int a) (.int b) = decide (a < b) := by
  simp only [lt, compare?, compare, compareOfLessAndEq]
  split
  · simp [*]
  · split <;> simp [*]

theorem le_int (a b : Int) : le (.int a) (.int b) = decide (a ≤ b) := by
  simp only [le, compare?, compare, compareOfLessAndEq]
  split
  · simp [Int.le_of_lt, *]
  · split <;> simp [*]; omega

def same (a b : Number) : Bool := a.compare? b == some .eq

def isZero (a : Number) : Bool := a.same (.int 0)

/-- `str(n)` -/
def text? : Number → Except Fault String
  | .int n => intText? n
  | .float x => .ok (floatText x)

instance (n : Nat) : OfNat Number n := ⟨.int n⟩

end Number

end BlockStage
