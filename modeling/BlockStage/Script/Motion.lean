import BlockStage.Angle
import BlockStage.Place
import BlockStage.Script.Arguments

/-!
# Motion blocks

A direction is an angle in degrees, clockwise from straight up.
-/

namespace BlockStage

/-- The `motion_` methods. -/
inductive Motion where
  | goTo
  | goToMenu
  | moveSteps
  | goToXY
  | turnRight
  | turnLeft
  | pointInDirection
  | glideTo
  | glideToXY
  | setX
  | setY
  | changeX
  | changeY
  | pointTowards
  | pointTowardsMenu
  | ifOnEdgeBounce
  | xPosition
  | yPosition
  | direction
  deriving DecidableEq, Repr

namespace Motion

/-- The block of an opcode. -/
def ofName? : String → Option Motion
  | "motion_goto" => some goTo
  | "motion_goto_menu" | "motion_glideto_menu" => some goToMenu
  | "motion_movesteps" => some moveSteps
  | "motion_gotoxy" => some goToXY
  | "motion_turnright" => some turnRight
  | "motion_turnleft" => some turnLeft
  | "motion_pointindirection" => some pointInDirection
  | "motion_glideto" => some glideTo
  | "motion_glidesecstoxy" => some glideToXY
  | "motion_setx" => some setX
  | "motion_sety" => some setY
  | "motion_changexby" => some changeX
  | "motion_changeyby" => some changeY
  | "motion_pointtowards" => some pointTowards
  | "motion_pointtowards_menu" => some pointTowardsMenu
  | "motion_ifonedgebounce" => some ifOnEdgeBounce
  | "motion_xposition" => some xPosition
  | "motion_yposition" => some yPosition
  | "motion_direction" => some direction
  | _ => none

/-- Where a sprite is. -/
def placeOf (s : Sprite) : Except Fault Value := do
  let x ← s.attribute? .x
  let y ← s.attribute? .y
  return .place x y

/-- Where the mouse is on the stage. -/
def mousePlace (w : World) : Except Fault Value :=
  (Place.ofWindow (Value.num w.host.mouse.1) (Value.num w.host.mouse.2)).map Place.ofPair

/-- `motion_goto_menu` -/
def target (me : Nat) (flag : Value) : Act Value := do
  let args ← Arguments.eval me flag
  let goal ← args.need "TO"
  if goal.isText "_random_" then
    let y ← Host.uniform (← Act.chance) (.int (-180)) (.int 180)
    let x ← Host.uniform (← Act.chance) (.int (-240)) (.int 240)
    return .place (.num x) (.num y)
  else if goal.isText "_mouse_" then
    return ← mousePlace (← Act.look)
  else
    let w ← Act.look
    match ← w.named? goal with
    | some i => return ← placeOf (w.sprite i)
    | none => return .null

/-- `motion_movesteps` -/
def moveBy (me : Nat) (steps : Int) : Act Unit := do
  let angle ← Angle.radians (← Act.attr me .direction)
  let dx ← Number.mul (.int steps) (.float (← Angle.sine? angle))
  let dy ← Number.mul (.int steps) (.float (← Angle.cosine? angle))
  Act.change me .x (.ok (.num dx))
  Act.change me .y (.ok (.num dy))

/-- `direction % 360` -/
def reduceTurn (v : Value) : Except Fault Value := Value.mod? v (Value.int 360)

/-- `motion_turnright` and `motion_turnleft`. The direction that is then reduced is that of the sprite that was
loaded last. -/
def turn (op : Number → Number → Except Fault Number) (me : Nat) (degrees : Value) : Act Unit := do
  Act.adjust op me .direction (.ok (Value.int degrees.asInt))
  let last := (← Act.look).latest
  Act.set last .direction (← reduceTurn (← Act.attr last .direction))

/-- The steps of a glide, each with a pause. -/
def glideSteps (me : Nat) (secs dx dy : Value) : Nat → Act Unit
  | 0 => return ()
  | n + 1 => do
    let total ← secs.toFloat?
    Act.sleep (total / 100.0)
    Act.change me .x (.ok dx)
    Act.change me .y (.ok dy)
    glideSteps me secs dx dy n

/-- `motion_glidesecstoxy` -/
def glide (me : Nat) (secs goal : Value) : Act Unit := do
  let toX ← goal.at? 0
  let dx ← Value.div? (← Value.sub? toX (← Act.attr me .x)) (Value.int 100)
  let toY ← goal.at? 1
  let dy ← Value.div? (← Value.sub? toY (← Act.attr me .y)) (Value.int 100)
  glideSteps me secs dx dy 100

/-- `pos2angle` from a sprite. -/
def directionTo (me : Nat) (x y : Value) : Act Value := do
  let dx ← Value.sub? x (← Act.attr me .x)
  let dy ← Value.sub? y (← Act.attr me .y)
  return .num (← Angle.towards dx dy)

/-- `motion_pointtowards_menu` -/
def directionFromMenu (me : Nat) (flag : Value) : Act Value := do
  let args ← Arguments.eval me flag
  let towards ← args.need "TOWARDS"
  if towards.isText "_mouse_" then
    match ← mousePlace (← Act.look) with
    | .place x y => directionTo me x y
    | _ => return .null
  else if towards.isText "_random_" then
    return .num (← Host.uniform (← Act.chance) (.int 0) (.int 360))
  else
    let w ← Act.look
    match ← w.named? towards with
    | some i =>
      let x ← (w.sprite i).attribute? .x
      let y ← (w.sprite i).attribute? .y
      directionTo me x y
    | none => return .null

/-- The picture is beyond a side. -/
def outsideAcross (r : Rect) : Bool := !(0 ≤ r.left && r.left ≤ r.right && r.right ≤ 960)

/-- The picture is beyond the upper or lower edge. -/
def outsideUpright (r : Rect) : Bool := !(0 ≤ r.top && r.top ≤ r.bottom && r.bottom ≤ 720)

/-- Turns a sprite at a side round, unless it faces away already. -/
def mirror (me : Nat) : Act Unit := do
  let atRight ← Value.lt? (Value.int 0) (← Act.attr me .x)
  let direction ← Act.attr me .direction
  let facesLeft ← Value.lt? (Value.int 180) (← reduceTurn direction)
  if atRight != facesLeft then
    let back ← direction.neg?
    Act.set me .direction back
    Act.set me .direction (← reduceTurn back)

/-- Turns a sprite at the upper or lower edge round, unless it faces away already. -/
def overturn (me : Nat) : Act Unit := do
  let atTop ← Value.lt? (Value.int 0) (← Act.attr me .y)
  let direction ← Act.attr me .direction
  let turned ← reduceTurn direction
  let facesDown := (← Value.lt? (Value.int 90) turned) && (← Value.lt? turned (Value.int 270))
  if atTop != facesDown then
    Act.set me .direction (← Value.sub? (Value.int 180) direction)

/-- `motion_ifonedgebounce` -/
def bounce (me : Nat) : Act Unit := do
  let rect ← ((← Act.look).sprite me).rect?
  if outsideAcross rect then mirror me
  if outsideUpright rect then overturn me

/-- The first nine characters of an attribute. -/
def shown (me : Nat) (a : Attribute) : Act Value := do
  let v ← Act.attr me a
  return .text (String.ofList (v.asText.toList.take 9))

/-- Sets a coordinate. -/
def setTo (me : Nat) (a : Attribute) (v : Value) : Act Unit := do
  Act.set me a (Value.float (← v.toFloat?))

/-- What a motion block does. -/
def act (me : Nat) (flag : Value) : Motion → Act Value
  | goTo => do
    let args ← Arguments.eval me flag
    match ← args.need "TO" with
    | .place x y =>
      Act.set me .x x
      Act.set me .y y
      return .null
    | _ => throw .missingMember
  | goToMenu => target me flag
  | moveSteps => do
    let args ← Arguments.eval me flag
    moveBy me (← args.need "STEPS").asInt
    return .null
  | goToXY => do
    let args ← Arguments.eval me flag
    Act.set me .x (Value.int (← args.need "X").asInt)
    Act.set me .y (Value.int (← args.need "Y").asInt)
    return .null
  | turnRight => do
    let args ← Arguments.eval me flag
    turn Number.add me (← args.need "DEGREES")
    return .null
  | turnLeft => do
    let args ← Arguments.eval me flag
    turn Number.sub me (← args.need "DEGREES")
    return .null
  | pointInDirection => do
    let args ← Arguments.eval me flag
    setTo me .direction (← args.need "DIRECTION")
    return .null
  | glideTo => do
    let args ← Arguments.eval me flag
    let secs ← args.need "SECS"
    let goal ← args.need "TO"
    glide me secs goal
    return .null
  | glideToXY => return .null
  | setX => do
    let args ← Arguments.eval me flag
    setTo me .x (← args.need "X")
    return .null
  | setY => do
    let args ← Arguments.eval me flag
    setTo me .y (← args.need "Y")
    return .null
  | changeX => do
    let args ← Arguments.eval me flag
    let dx ← args.need "DX"
    Act.change me .x (dx.toFloat?.map Value.float)
    return .null
  | changeY => do
    let args ← Arguments.eval me flag
    let dy ← args.need "DY"
    Act.change me .y (dy.toFloat?.map Value.float)
    return .null
  | pointTowards => do
    let args ← Arguments.eval me flag
    let towards ← args.need "TOWARDS"
    Act.set me .direction (Value.float (← towards.asFloat?))
    return .null
  | pointTowardsMenu => directionFromMenu me flag
  | ifOnEdgeBounce => do
    bounce me
    return .null
  | xPosition => shown me .x
  | yPosition => shown me .y
  | direction => shown me .direction

end Motion

end BlockStage
