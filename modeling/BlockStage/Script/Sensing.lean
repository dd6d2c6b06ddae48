import BlockStage.Collision
import BlockStage.Keys
import BlockStage.Script.Motion

/-!
# Sensing blocks

What a sprite touches or is away from, keys, the mouse and the clock.
-/

namespace BlockStage

/-- The `sensing_` methods. -/
inductive Sensing where
  | keyPressed
  | keyOptions
  | timer
  | resetTimer
  | touchingObject
  | touchingObjectMenu
  | distanceToMenu
  | distanceTo
  | mouseDown
  | mouseX
  | mouseY
  | daysSince2000
  | username
  | loudness
  deriving DecidableEq, Repr

namespace Sensing

/-- The block of an opcode. -/
def ofName? : String → Option Sensing
  | "sensing_keypressed" => some keyPressed
  | "sensing_keyoptions" => some keyOptions
  | "sensing_timer" => some timer
  | "sensing_resettimer" => some resetTimer
  | "sensing_touchingobject" => some touchingObject
  | "sensing_touchingobjectmenu" => some touchingObjectMenu
  | "sensing_distancetomenu" => some distanceToMenu
  | "sensing_distanceto" => some distanceTo
  | "sensing_mousedown" => some mouseDown
  | "sensing_mousex" => some mouseX
  | "sensing_mousey" => some mouseY
  | "sensing_dayssince2000" => some daysSince2000
  | "sensing_username" => some username
  | "sensing_loudness" => some loudness
  | _ => none

/-! ## Touching -/

/-- `collision` with the mouse. -/
def touchesMouse (me : Nat) : Act Bool := do
  let w ← Act.look
  let (x, y) ← Place.ofWindow (Value.num w.host.mouse.1) (Value.num w.host.mouse.2)
  let (pixelX, pixelY) ← Place.onScreen (Value.int x) (Value.int y)
  let pixel : Surface := { width := 1, height := 1 }
  Act.record (.fill pixel (Value.ints [255, 255, 255, 255]))
  let rect ← (w.sprite me).rect?
  let image ← (w.sprite me).image?
  return touching rect image ⟨pixelX, pixelY, 1, 1⟩ pixel.painted

/-- Across, the rectangle has to leave the stage. Upright, the edges are taken in the wrong order, so that only
a rectangle between them in that order does not touch. -/
def touchesEdge (r : Rect) : Bool :=
  Motion.outsideAcross r || !(720 ≤ r.top && r.top ≤ r.bottom && r.bottom ≤ 0)

/-- `collision` with a sprite. -/
def touchesSprite (me other : Nat) : Act Bool := do
  let w ← Act.look
  let rect ← (w.sprite me).rect?
  let image ← (w.sprite me).image?
  let rect' ← (w.sprite other).rect?
  let image' ← (w.sprite other).image?
  return touching rect image rect' image'

/-- `sensing_touchingobject` -/
def touches (me : Nat) (what : Value) : Act Bool := do
  let w ← Act.look
  let able := (w.sprite me).can? "collision"
  if what.isText "_mouse_" then
    able
    touchesMouse me
  else if what.isText "_edge_" then
    able
    return touchesEdge (← (w.sprite me).rect?)
  else
    match ← w.named? what, what with
    | some other, _ =>
      able
      touchesSprite me other
    | none, .text name => throw (.spriteNotFound name)
    | none, _ => throw .wrongKind

/-! ## Distance -/

/-- The square of a double; a finite one may be too large to have one. -/
def square? (x : Float) : Except Fault Float :=
  let y := Float.pow x 2.0
  if y.isInf && !x.isInf then .error .overflow else .ok y

/-- `sensing_distanceto` -/
def distance (me : Nat) (goal : Value) : Act Value := do
  match goal with
  | .place toX toY =>
    let s := (← Act.look).sprite me
    let x ← s.attribute? .x
    let y ← s.attribute? .y
    let dx ← (← Value.sub? x toX).asFloat?
    let dy ← (← Value.sub? y toY).asFloat?
    return .text (floatText (Float.sqrt ((← square? dx) + (← square? dy))))
  | _ => throw .missingMember

/-! ## The clock -/

/-- The units of `sensing_dayssince2000`. -/
def daySeconds : Float := 86400.0

def daysTo2000 : Float := 10957.0

/-- What a sensing block does. -/
def act (me : Nat) (flag : Value) : Sensing → Act Value
  | keyPressed => do
    let args ← Arguments.eval me flag
    match (← Act.look).keys with
    | none => throw .undefinedName
    | some held => return Value.truth (Keys.isHeld held (← Keys.code? (← args.need "KEY_OPTION")))
  | keyOptions => do
    let args ← Arguments.eval me flag
    args.need "KEY_OPTION"
  | timer => do
    let w ← Act.look
    let now ← w.host.time
    let since ← (w.sprite (← w.stage?)).get? "time"
    return .text (← Value.sub? (Value.float now) since).asText
  | resetTimer => do
    let w ← Act.look
    let _ ← w.host.time
    .ask (.resetTimer (← w.stage?)) .ret
    return .null
  | touchingObject => do
    let args ← Arguments.eval me flag
    return Value.truth (← touches me (← args.need "TOUCHINGOBJECTMENU"))
  | touchingObjectMenu => do
    let args ← Arguments.eval me flag
    args.need "TOUCHINGOBJECTMENU"
  | distanceToMenu => do
    let args ← Arguments.eval me flag
    let what ← args.need "DISTANCETOMENU"
    let w ← Act.look
    if what.isText "_mouse_" then Motion.mousePlace w
    else
      match ← w.named? what with
      | some i => Motion.placeOf (w.sprite i)
      | none => return .null
  | distanceTo => do
    let args ← Arguments.eval me flag
    distance me (← args.need "DISTANCETOMENU")
  | mouseDown => do
    let _ ← Arguments.eval me flag
    return .text (← (← Act.look).host.leftButton?).asText
  | mouseX => do
    let _ ← Arguments.eval me flag
    let half ← (← Act.look).host.mouse.1.div (.int 2)
    return .text (Value.num (← half.sub (.int 240))).asText
  | mouseY => do
    let _ ← Arguments.eval me flag
    let half ← (← Act.look).host.mouse.2.div (.int 2)
    return .text (Value.num (← Number.sub (.int 180) half)).asText
  | daysSince2000 => do
    let _ ← Arguments.eval me flag
    return .text (floatText ((← (← Act.look).host.time) / daySeconds - daysTo2000))
  | username => do
    let _ ← Arguments.eval me flag
    match (← Act.look).host.login with
    | some name => return .text name
    | none => throw .system
  | loudness => do
    Act.log .loudnessMissing
    return .text "100"

end Sensing

end BlockStage
