import BlockStage.Arith

/-!
# Places on the stage

Scripts count from the middle of the stage, upwards; the screen on which sprites are drawn and the
window that shows it count pixels from the upper left corner, downwards. A place is kept in the frame
of scripts.
-/

namespace BlockStage

/-- A frame of coordinates, given by its four edges. -/
structure Frame (α : Type) where
  left : α
  right : α
  bottom : α
  top : α

namespace Frame

variable {α : Type} [Arith α]

def ofInts (left right bottom top : Int) : Frame α :=
  ⟨Arith.ofInt left, Arith.ofInt right, Arith.ofInt bottom, Arith.ofInt top⟩

/-- `Position.SCRATCH` -/
def script : Frame α := ofInts (-240) 240 (-180) 180

/-- `Position.PYGAME` -/
def screen : Frame α := ofInts 0 960 720 0

/-- `Position.SHOW` -/
def window : Frame α := ofInts 0 960 720 0

/-- `Position.position_map`: linear, without the fraction of the result. -/
def convert (source target : Frame α) (x y : α) : Except Fault (Int × Int) := do
  let scaleX ← Arith.div (← Arith.sub target.right target.left)
    (← Arith.sub source.right source.left)
  let scaleY ← Arith.div (← Arith.sub target.top target.bottom)
    (← Arith.sub source.top source.bottom)
  let newX ← Arith.add target.left (← Arith.mul (← Arith.sub x source.left) scaleX)
  let newY ← Arith.add target.bottom (← Arith.mul (← Arith.sub y source.bottom) scaleY)
  let pixelX ← Arith.truncate? newX
  let pixelY ← Arith.truncate? newY
  return (pixelX, pixelY)

/-- A frame given by four values. -/
def ofValue? (v : Value) : Except Fault (Frame Value) := do
  match ← v.elements? with
  | [left, right, bottom, top] => return ⟨left, right, bottom, top⟩
  | _ => throw .badValue

end Frame

namespace Place

variable {α : Type} [Arith α]

def ofScreen (x y : α) : Except Fault (Int × Int) := Frame.screen.convert Frame.script x y

def ofWindow (x y : α) : Except Fault (Int × Int) := Frame.window.convert Frame.script x y

/-- `Position.pygame` -/
def onScreen (x y : α) : Except Fault (Int × Int) := Frame.script.convert Frame.screen x y

/-- `Position.show` -/
def inWindow (x y : α) : Except Fault (Int × Int) := Frame.script.convert Frame.window x y

def ofPair (p : Int × Int) : Value := .place (Value.int p.1) (Value.int p.2)

/-- The mode of a `Position`. -/
inductive Given where
  | script
  | screen
  | window
  deriving DecidableEq, Repr

/-- The coordinates that `Position.__init__` keeps. -/
def coordinates (given : Given) (x y : α) : Except Fault (α × α) :=
  match given with
  | .script => .ok (x, y)
  | .screen => (ofScreen x y).map fun p => (Arith.ofInt p.1, Arith.ofInt p.2)
  | .window => (ofWindow x y).map fun p => (Arith.ofInt p.1, Arith.ofInt p.2)

/-- How many pixels one unit of scripts spans: 960 pixels show 480 units. -/
def scale : Float := 2.0

end Place

end BlockStage
