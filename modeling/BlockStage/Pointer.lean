import BlockStage.Number.Basic

/-!
# The speed of the mouse

The speed is measured between two looks at the mouse, in half pixels.
-/

namespace BlockStage

/-- `previous_mouse_pos` and `previous_time`. -/
structure Pointer where
  place : Number × Number
  time : Int
  deriving Inhabited

namespace Pointer

/-- Half the speed along one axis. Without time between two looks there is none. -/
def rate (distance : Number) (time : Int) : Except Fault Number := do
  if 0 < time then
    let perMs ← distance.div (.int time)
    (← perMs.mul (.int 1000)).div (.int 2)
  else Number.div (.int 0) (.int 2)

/-- `get_mouse_speed` -/
def look (mouse : Number × Number) (now : Int) (p : Pointer) :
    Except Fault ((Number × Number) × Pointer) := do
  let time := now - p.time
  let dx ← mouse.1.sub p.place.1
  let dy ← mouse.2.sub p.place.2
  let x ← rate dx time
  let y ← rate dy time
  return ((x, y), ⟨mouse, now⟩)

end Pointer

end BlockStage
