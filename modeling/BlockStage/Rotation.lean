import BlockStage.Angle
import BlockStage.Canvas

/-!
# Turned pictures

Turning a picture moves its middle around the pivot.
-/

namespace BlockStage

/-- A vector turned by an angle. -/
def turned (x y : Float) (angle : Number) : Except Fault (Float × Float) := do
  let r := (← angle.toFloat?) * Angle.perDegree
  let c ← Angle.cosine? r
  let s ← Angle.sine? r
  return (x * c - y * s, x * s + y * c)

/-- `blitRotate`: draws `image`, turned by `angle`, with the point `(originX, originY)` of it at `(x, y)`. The
answer is the turned picture and the rectangle it fills. -/
def drawTurned (on image : Surface) (x y originX originY angle : Value) (visible : Bool) :
    Paint (Surface × Rect) := do
  let left ← Paint.ofExcept (Value.sub? x originX)
  let top ← Paint.ofExcept (Value.sub? y originY)
  let upright ← Paint.ofExcept (image.placedAt left top)
  let (mx, my) := upright.center
  let offsetX ← Paint.ofExcept (do return (← x.number? >>= Number.toFloat?) - (← Binary.ofInt? mx))
  let offsetY ← Paint.ofExcept (do return (← y.number? >>= Number.toFloat?) - (← Binary.ofInt? my))
  let (dx, dy) ← Paint.ofExcept (do turned offsetX offsetY (← angle.number?).neg)
  let cx ← Paint.ofExcept (Value.sub? x (Value.float dx))
  let cy ← Paint.ofExcept (Value.sub? y (Value.float dy))
  Paint.record (.rotate image angle)
  let rect ← Paint.ofExcept (image.centredAt cx cy)
  if visible then Paint.blit on image (.rect rect)
  return (image, rect)

end BlockStage
