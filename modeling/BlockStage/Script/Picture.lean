import BlockStage.Bubble
import BlockStage.Rotation
import BlockStage.Script.Motion

/-!
# Pictures

A costume is loaded, scaled, turned and put at its place, and what the sprite says is put beside it.
The stage is drawn as it is.
-/

namespace BlockStage.Stage

/-- The `screen`, of `STAGE_SIZE`. -/
def screen : Surface := { width := 960, height := 720 }

/-- The picture of a costume: under its `md5ext`, or else under id and format. -/
def costumeImage (images : Table Surface) (costume : Value) : Paint Surface := do
  try Paint.load images (← Paint.ofExcept (costume.field? "md5ext"))
  catch _ =>
    let stem ← Paint.ofExcept (do Value.add? (← costume.field? "assetId") (.text "."))
    let path ← Paint.ofExcept (do Value.add? stem (← costume.field? "dataFormat"))
    Paint.load images path

/-- A side of a scaled picture. -/
def scaledSide (side : Int) (scale : Number) : Except Fault Int := do
  return max 1 (← (← Number.mul (.int side) scale).truncate?)

/-- `pygame.transform.rotozoom` without turning. -/
def scaleImage (image : Surface) (scale : Value) : Paint Surface := do
  Paint.record (.rotozoom image (Value.int 0) scale)
  let factor ← Paint.ofExcept scale.number?
  let width ← Paint.ofExcept (scaledSide image.width factor)
  let height ← Paint.ofExcept (scaledSide image.height factor)
  return { image with width := width, height := height }

/-- The `size` of a sprite is given in percent. -/
def factor? (size : Value) : Except Fault Value := Value.div? size (Value.int 100)

/-- The picture of a sprite in a costume. -/
def pictureIn (costume : Value) (images : Table Surface) (s : Sprite) :
    Paint (Option (Surface × Rect)) := do
  let image ← costumeImage images costume
  let format ← Paint.ofExcept (costume.field? "dataFormat")
  let image ← if format.isText "svg" then scaleImage image (Value.int 2) else pure image
  if (← Paint.ofExcept s.isStage?) then
    Paint.blit screen image .origin
    return none
  if !(← Paint.ofExcept (s.attribute? .visible)).holds then return none
  let size ← Paint.ofExcept (s.attribute? .size)
  let image ←
    if size.same (Value.int 100) then pure image
    else scaleImage image (← Paint.ofExcept (factor? size))
  let direction ← Paint.ofExcept (do Motion.reduceTurn (← s.attribute? .direction))
  let x ← Paint.ofExcept (s.attribute? .x)
  let y ← Paint.ofExcept (s.attribute? .y)
  let (pixelX, pixelY) ← Paint.ofExcept (Place.onScreen x y)
  let centreX ← Paint.ofExcept (do
    Arith.mul (← costume.field? "rotationCenterX") (← factor? size))
  let centreY ← Paint.ofExcept (do
    Arith.mul (← costume.field? "rotationCenterY") (← factor? size))
  let shownX ← Paint.ofExcept centreX.quoted?
  let shownY ← Paint.ofExcept centreY.quoted?
  Paint.record (.print ("(" ++ shownX ++ ", " ++ shownY ++ ") " ++ floatText Place.scale))
  let originX ← Paint.ofExcept (Arith.mul centreX (Value.float Place.scale))
  let originY ← Paint.ofExcept (Arith.mul centreY (Value.float Place.scale))
  let angle ← Paint.ofExcept (Value.sub? (Value.int 90) direction)
  let drawn ← drawTurned screen image (Value.int pixelX) (Value.int pixelY) originX originY angle
    true
  return some drawn

/-- The picture of a sprite and the rectangle that it fills. -/
def picture (images : Table Surface) (s : Sprite) : Paint (Option (Surface × Rect)) := do
  let costumes ← Paint.ofExcept (s.get? "costumes")
  let costume ← Paint.ofExcept (do costumes.index? (← s.attribute? .costume))
  pictureIn costume images s

/-- Draws on the canvas of the world. -/
def draw {α : Type} (p : Paint α) : Act α := do
  let (result, _, calls) := p.react ()
  calls.forM Act.record
  result

/-- `Sprite.draw` -/
def drawSprite (i : Nat) : Act Unit := do
  let w ← Act.look
  match ← draw (picture w.host.images (w.sprite i)) with
  | some (image, rect) =>
    .ask (.paint i image rect) .ret
    draw (Bubble.draw screen ((w.sprite i).get? Sprite.wordsKey) (.ok rect))
  | none => return ()

end BlockStage.Stage
