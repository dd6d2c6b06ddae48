import BlockStage.Value.Basic

/-!
# Angles

Angles are given in degrees. Directions of sprites are angles clockwise from straight up.
-/

namespace BlockStage

namespace Angle

/-- The factors of `math.radians` and `math.degrees`. -/
def perDegree : Float := 3.141592653589793 / 180.0

def perRadian : Float := 180.0 / 3.141592653589793

def radians (v : Value) : Except Fault Float := do
  return (← (← v.number?).toFloat?) * perDegree

def finite? (x : Float) : Except Fault Float := if x.isInf then .error .badValue else .ok x

/-- `math.sin`, which refuses an infinite number. -/
def sine? (x : Float) : Except Fault Float := (finite? x).map Float.sin

def cosine? (x : Float) : Except Fault Float := (finite? x).map Float.cos

/-- The direction of a vector (`pos2angle`). -/
def towards (dx dy : Value) : Except Fault Number := do
  let y ← (← dy.number?).toFloat?
  let x ← (← dx.number?).toFloat?
  (Number.float (90.0 - Float.atan2 y x * perRadian)).mod (.int 360)

end Angle

end BlockStage
