import BlockStage.Bubble
import BlockStage.Place
import BlockStage.Pointer

/-!
# Panels

A panel shows a variable or a list on the stage (`Monitor`).
-/

namespace BlockStage

/-- What is needed to draw a panel. A part that is absent only matters when it is used. -/
structure Panel where
  visible : Except Fault Value
  name : Except Fault Value
  owner : Except Fault Value
  ofStage : Except Fault Value
  x : Except Fault Value
  y : Except Fault Value
  width : Except Fault Value
  height : Except Fault Value
  params : Except Fault Value
  scroll : Except Fault Value

namespace Panel

/-- A coordinate in pixels. -/
def scaled? (v : Except Fault Value) : Except Fault Value := do
  Arith.mul (← v) (Value.float Place.scale)

def textBox (on : Surface) (color x y : Value) (image : Surface) (style : List Value) :
    Paint Rect :=
  Paint.rect on color x y (Value.int image.width) (Value.int image.height) style

/-- The name of a variable, with its owner in front. -/
def label? (p : Panel) : Except Fault Value := do
  if (← p.ofStage).holds then p.name
  else
    match ← p.owner with
    | .text owner => Value.add? (.text owner) (← p.name)
    | _ => throw .wrongKind

/-- `drawvariable` -/
def drawVariable (on : Surface) (p : Panel) (value : Value) : Paint Unit := do
  if !(← Paint.ofExcept p.visible).holds then return ()
  let label ← Paint.ofExcept p.label?
  let shown ← Paint.ofExcept value.display?
  let both ← Paint.ofExcept (do Value.add? (← Value.add? label (.text shown)) (.text " "))
  let image ← Paint.render stageFont both .black
  let x ← Paint.ofExcept (scaled? p.x)
  let y ← Paint.ofExcept (scaled? p.y)
  let rounded := [Value.int 0, Value.int 3]
  let _ ← textBox on .paleBlue x y image rounded
  let image ← Paint.render stageFont label .black
  Paint.blit on image (.point x y)
  let valueX ← Paint.ofExcept (do
    Arith.add (← Arith.add x (Value.int image.width)) (Value.int 5))
  let image ← Paint.render stageFont (.text shown) .white
  let _ ← textBox on .orange valueX y image rounded
  Paint.blit on image (.point valueX y)

def rowGap : Int := 5

/-- Draws the rows of a list from `y` on. A row above the panel is not painted, and none follows one that
reaches below it. -/
def drawRows (on : Surface) (height : Except Fault Value) : List Value → Value → Paint Unit
  | [], _ => return ()
  | item :: rest, y => do
    let image ← Paint.render stageFont item .black
    if ← Paint.ofExcept (Value.le? (Value.int 0) y) then
      let rect ← textBox on .orange (Value.int 5) y image [Value.int 0]
      Paint.blit on image (.rect rect)
    let next ← Paint.ofExcept (Arith.add y (Value.int (image.height + rowGap)))
    let height' ← Paint.ofExcept height
    if ← Paint.ofExcept (Value.lt? height' next) then return ()
    drawRows on height rest next

/-- How far a panel is scrolled after the mouse moved: never below its first row. -/
def scrolled? (scroll : Value) (speed : Number) : Except Fault Value := do
  let moved ← Arith.add scroll (.num (← speed.div (.int 10)))
  if ← Value.lt? (Value.int 0) moved then return Value.int 0 else return moved

/-- The mouse, whether its button is held, and the time. -/
structure Hand where
  mouse : Number × Number
  held : Except Fault Value
  now : Int

/-- The surface of a list, and the area it takes. -/
def drawBoard (on : Surface) (p : Panel) (items : Value) : Paint (Surface × Rect) := do
  let items ← Paint.ofExcept items.elements?
  for item in items do
    let _ ← Paint.ofExcept (shortened? 10 item)
  let first ← Paint.ofExcept (do Arith.add (← p.scroll) (Value.int 30))
  let board ← Paint.ofExcept (do Surface.create? (← p.width) (← p.height))
  let x ← Paint.ofExcept p.x
  let y ← Paint.ofExcept p.y
  let area ← textBox on .orange x y board [Value.int 0]
  let board ← Paint.fill board .paleBlue
  drawRows board p.height items first
  let title ← Paint.ofExcept (do (← p.params).field? "LIST")
  let image ← Paint.render stageFont title .black
  let rect ← textBox board .white (Value.int 0) (Value.int 0) image []
  Paint.blit board image (.rect rect)
  let _ ← textBox board .black (Value.int 0) (Value.int 0) board [Value.int 2]
  return (board, area)

/-- The mouse, whose place is halved, is over the panel and held. -/
def dragged? (area : Rect) (hand : Hand) : Except Fault Bool := do
  let x ← hand.mouse.1.div (.int 2)
  let y ← hand.mouse.2.div (.int 2)
  return area.holdsPoint x y && (← hand.held).holds

/-- `get_mouse_speed` -/
def speed (hand : Hand) : Reaction Pointer Call (Number × Number) := do
  let (speed, pointer) ← Reaction.ofExcept ((← Reaction.state).look hand.mouse hand.now)
  Reaction.change fun _ => pointer
  return speed

/-- `drawlist`. The answer is how far the panel is scrolled afterwards, if it is dragged. -/
def drawList (on : Surface) (p : Panel) (items : Value) (hand : Hand) :
    Reaction Pointer Call (Option Value) := do
  let (board, area) ← (drawBoard on p items).lift
  let dragged ← Reaction.ofExcept (dragged? area hand)
  let scroll ← if dragged then
      let old ← Reaction.ofExcept p.scroll
      let (_, y) ← speed hand
      pure (some (← Reaction.ofExcept (scrolled? old y)))
    else pure none
  Reaction.emit (.blit on board (.rect area))
  return scroll

end Panel

end BlockStage
