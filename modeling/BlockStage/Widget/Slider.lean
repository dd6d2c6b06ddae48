import BlockStage.Widget.Area

/-!
# Sliders

A slider has a handle that can be dragged along a track. `VerticalSlider` and `HorizontalSlider` have
the same attributes, but each kind has methods of its own.
-/

namespace BlockStage.Widget

/-- The kind of a slider. -/
inductive Orientation where
  | vertical
  | horizontal
  deriving DecidableEq, Repr

/-- The parts that are drawn. -/
inductive Slider.Part where
  | track
  /-- The part of the track before the handle. -/
  | bar
  | handle
  deriving DecidableEq, Repr

/-- What a slider draws, or a shape of the mouse pointer. -/
inductive Slider.Stroke (α : Type) where
  | hand
  | box (part : Slider.Part) (x y w h : α)

/-- The attributes of a slider. -/
structure Slider (α : Type) where
  orientation : Orientation
  x : α
  y : α
  width : α
  height : α
  handle : α
  color : Value := Value.ints [20, 20, 20]
  barColor : Value := Value.ints [200, 0, 0]
  handleColor : Value := Value.ints [50, 50, 50]
  percent : α
  visible : Value := .bool true
  hover : Value := .bool false
  active : Value := .bool false
  added : Table Value := []

namespace Slider

/-- What a method of a slider does. -/
abbrev Doing (α : Type) : Type → Type := Reaction (Slider α) (Stroke α)

variable {α : Type} [Arith α]

/-! ## What both kinds use -/

/-- Whether a number is between two others. The second one is only computed if it is not below the first. -/
def between? (low high : Except Fault α) (m : α) : Except Fault Bool := do
  if ← Arith.le (← low) m then Arith.le m (← high) else return false

/-- The colour of a part. -/
def colorOf (s : Slider α) : Part → Value
  | .track => s.color
  | .bar => s.barColor
  | .handle => s.handleColor

/-- Draws a part, in whole pixels. -/
def stroke (part : Part) (x y w h : α) : Doing α Unit := do
  let _ ← Reaction.ofExcept (colorOf (← Reaction.state) part).present?
  for c in [x, y, w, h] do
    let _ ← Reaction.ofExcept (Arith.present? c)
  Reaction.emit (.box part x y w h)
  for c in [x, y, w, h] do
    let _ ← Reaction.ofExcept (Arith.truncate? c)

/-! ## `VerticalSlider` -/

namespace Vertical

/-- Whether the mouse is over track or handle. -/
def over? (s : Slider α) (mouse : α × α) : Except Fault Bool := do
  if ← between? (do Arith.sub s.x (← Arith.half s.handle)) (do Arith.add s.x (← Arith.half s.handle)) mouse.1 then
    between? (return s.y) (Arith.add s.y s.height) mouse.2
  else return false

/-- `VerticalSlider.isHover` with the mouse at a place. -/
def isHover (mouse : α × α) : Doing α Unit := do
  let hovered ← Reaction.ofExcept (over? (← Reaction.state) mouse)
  Reaction.change fun s => { s with hover := .bool hovered }
  if hovered then Reaction.emit .hand

/-- Where the handle is dragged to: it follows the mouse but does not leave the track. -/
def dragged? (s : Slider α) (mouse : α) : Except Fault α := do
  if ← Arith.le mouse s.y then return s.y
  let last ← Arith.sub (← Arith.add s.y s.height) s.handle
  if ← Arith.le last mouse then return last
  return mouse

/-- The percentage of a handle. -/
def percentAt? (s : Slider α) (handlePosY : α) : Except Fault α := do
  let twice ← Arith.mul (Arith.ofInt 2) handlePosY
  let origin ← Arith.mul (Arith.ofInt 2) s.y
  let reach ← Arith.sub (← Arith.add s.handle twice) origin
  Arith.div (← Arith.mul (Arith.ofInt 50) reach) s.height

/-- Where a handle is that nobody drags. -/
def resting? (s : Slider α) : Except Fault α := do
  let part ← Arith.mul s.height (← Arith.div s.percent (Arith.ofInt 100))
  let middle ← Arith.add s.y part
  let reach ← Arith.round? (← Arith.div s.handle (Arith.ofInt 2))
  return Arith.ofInt (← Arith.round? (← Arith.sub middle (Arith.ofInt reach)))

/-- Where the handle is drawn. A handle that is dragged sets the percentage. -/
def placeHandle (mouse : α × α) : Doing α α := do
  let s ← Reaction.state
  if ← Reaction.ofExcept (holds? s.active) then
    let handlePosY ← Reaction.ofExcept (dragged? s mouse.2)
    let percent ← Reaction.ofExcept (percentAt? s handlePosY)
    Reaction.change fun s => { s with percent := percent }
    return handlePosY
  else Reaction.ofExcept (resting? s)

/-- `VerticalSlider.draw` with the mouse at a place. -/
def draw (mouse : α × α) : Doing α Unit := do
  if !(← Reaction.ofExcept (holds? (← Reaction.state).visible)) then return ()
  if Table.has (← Reaction.state).added "isHover" then throw .wrongKind
  isHover mouse
  let s ← Reaction.state
  stroke .track s.x s.y s.width s.height
  let handlePosY ← placeHandle mouse
  let height ← Reaction.ofExcept (Arith.sub handlePosY s.y)
  let handlePosX ← Reaction.ofExcept (do
    Arith.add (← Arith.sub s.x (← Arith.half s.handle)) (← Arith.half s.width))
  stroke .bar s.x s.y s.width height
  stroke .handle handlePosX handlePosY s.handle s.handle

/-- `VerticalSlider.getPressed`: pressing the mouse over the slider takes the handle, and releasing it lets it
go. The answer is whether it was taken. -/
def press (e : Event) : Doing α Bool := do
  let s ← Reaction.state
  let taken ← if e.isKind Event.mouseDown then Reaction.ofExcept (holds? s.hover) else pure false
  if taken then
    Reaction.change fun s => { s with active := .bool true }
    return true
  if (← Reaction.ofExcept (holds? s.active)) && e.isKind Event.mouseUp then
    Reaction.change fun s => { s with active := .bool false }
  return false

/-- `VerticalSlider.setPercent` -/
def setPercent (percent : α) : Doing α Unit := do
  let low ← Reaction.ofExcept (Arith.lt percent (Arith.ofInt 0))
  let outside ← if low then pure true
    else Reaction.ofExcept (Arith.lt (Arith.ofInt 100) percent)
  if outside then
    throw (.percentOutOfRange (← Reaction.ofExcept (Arith.text? percent)))
  Reaction.change fun s => { s with percent := percent }

/-- `VerticalSlider.setVisible` -/
def setVisible (visible : Value) : Doing α Unit :=
  Reaction.change fun s => { s with visible := visible }

end Vertical

/-! ## `HorizontalSlider` -/

namespace Horizontal

/-- Whether the mouse is over track or handle. -/
def over? (s : Slider α) (mouse : α × α) : Except Fault Bool := do
  if ← between? (return s.x) (Arith.add s.x s.width) mouse.1 then
    between? (do Arith.sub s.y (← Arith.half s.handle)) (do Arith.add s.y (← Arith.half s.handle)) mouse.2
  else return false

/-- `HorizontalSlider.isHover` with the mouse at a place. -/
def isHover (mouse : α × α) : Doing α Unit := do
  let hovered ← Reaction.ofExcept (over? (← Reaction.state) mouse)
  Reaction.change fun s => { s with hover := .bool hovered }
  if hovered then Reaction.emit .hand

/-- Where the handle is dragged to: it follows the mouse but does not leave the track. -/
def dragged? (s : Slider α) (mouse : α) : Except Fault α := do
  if ← Arith.le mouse s.x then return s.x
  let last ← Arith.sub (← Arith.add s.x s.width) s.handle
  if ← Arith.le last mouse then return last
  return mouse

/-- The percentage of a handle. -/
def percentAt? (s : Slider α) (handlePosX : α) : Except Fault α := do
  let twice ← Arith.mul (Arith.ofInt 2) handlePosX
  let origin ← Arith.mul (Arith.ofInt 2) s.x
  let reach ← Arith.sub (← Arith.add s.handle twice) origin
  Arith.div (← Arith.mul (Arith.ofInt 50) reach) s.width

/-- Where a handle is that nobody drags. -/
def resting? (s : Slider α) : Except Fault α := do
  let part ← Arith.mul s.width (← Arith.div s.percent (Arith.ofInt 100))
  let middle ← Arith.add s.x part
  let reach ← Arith.round? (← Arith.div s.handle (Arith.ofInt 2))
  return Arith.ofInt (← Arith.round? (← Arith.sub middle (Arith.ofInt reach)))

/-- Where the handle is drawn. A handle that is dragged sets the percentage. -/
def placeHandle (mouse : α × α) : Doing α α := do
  let s ← Reaction.state
  if ← Reaction.ofExcept (holds? s.active) then
    let handlePosX ← Reaction.ofExcept (dragged? s mouse.1)
    let percent ← Reaction.ofExcept (percentAt? s handlePosX)
    Reaction.change fun s => { s with percent := percent }
    return handlePosX
  else Reaction.ofExcept (resting? s)

/-- `HorizontalSlider.draw` with the mouse at a place. -/
def draw (mouse : α × α) : Doing α Unit := do
  if !(← Reaction.ofExcept (holds? (← Reaction.state).visible)) then return ()
  if Table.has (← Reaction.state).added "isHover" then throw .wrongKind
  isHover mouse
  let s ← Reaction.state
  stroke .track s.x s.y s.width s.height
  let handlePosX ← placeHandle mouse
  let width ← Reaction.ofExcept (Arith.sub handlePosX s.x)
  let handlePosY ← Reaction.ofExcept (do
    Arith.add (← Arith.sub s.y (← Arith.half s.handle)) (← Arith.half s.height))
  stroke .bar s.x s.y width s.height
  stroke .handle handlePosX handlePosY s.handle s.handle

/-- `HorizontalSlider.getPressed` -/
def press (e : Event) : Doing α Bool := do
  let s ← Reaction.state
  let taken ← if e.isKind Event.mouseDown then Reaction.ofExcept (holds? s.hover) else pure false
  if taken then
    Reaction.change fun s => { s with active := .bool true }
    return true
  if (← Reaction.ofExcept (holds? s.active)) && e.isKind Event.mouseUp then
    Reaction.change fun s => { s with active := .bool false }
  return false

/-- `HorizontalSlider.setPercent` -/
def setPercent (percent : α) : Doing α Unit := do
  let low ← Reaction.ofExcept (Arith.lt percent (Arith.ofInt 0))
  let outside ← if low then pure true
    else Reaction.ofExcept (Arith.lt (Arith.ofInt 100) percent)
  if outside then
    throw (.percentOutOfRange (← Reaction.ofExcept (Arith.text? percent)))
  Reaction.change fun s => { s with percent := percent }

/-- `HorizontalSlider.setVisible` -/
def setVisible (visible : Value) : Doing α Unit :=
  Reaction.change fun s => { s with visible := visible }

end Horizontal

/-! ## Either kind -/

/-- What a slider does is up to its kind. -/
def byKind {β : Type} (vertical horizontal : Doing α β) :
    Doing α β := do
  match (← Reaction.state).orientation with
  | .vertical => vertical
  | .horizontal => horizontal

def isHover (mouse : α × α) : Doing α Unit :=
  byKind (Vertical.isHover mouse) (Horizontal.isHover mouse)

def draw (mouse : α × α) : Doing α Unit :=
  byKind (Vertical.draw mouse) (Horizontal.draw mouse)

def press (e : Event) : Doing α Bool := byKind (Vertical.press e) (Horizontal.press e)

def setPercent (percent : α) : Doing α Unit :=
  byKind (Vertical.setPercent percent) (Horizontal.setPercent percent)

def setVisible (visible : Value) : Doing α Unit :=
  byKind (Vertical.setVisible visible) (Horizontal.setVisible visible)

/-! ## In a window -/

instance : Attributed (Slider Value) where
  slots := [
    .fixed "x" (·.x) (fun s v => { s with x := v }),
    .fixed "y" (·.y) (fun s v => { s with y := v }),
    .fixed "width" (·.width) (fun s v => { s with width := v }),
    .fixed "height" (·.height) (fun s v => { s with height := v }),
    .fixed "handle" (·.handle) (fun s v => { s with handle := v }),
    .fixed "handleColor" (·.handleColor) (fun s v => { s with handleColor := v }),
    .fixed "color" (·.color) (fun s v => { s with color := v }),
    .fixed "sliderColor" (·.barColor) (fun s v => { s with barColor := v }),
    .fixed "sliderPercent" (·.percent) (fun s v => { s with percent := v }),
    .fixed "visible" (·.visible) (fun s v => { s with visible := v }),
    .fixed "hover" (·.hover) (fun s v => { s with hover := v }),
    .fixed "active" (·.active) (fun s v => { s with active := v })]
  added := (·.added)
  withAdded s t := { s with added := t }

/-- A stroke in a window. -/
def Stroke.call (window : Surface) (s : Slider Value) : Stroke Value → Call
  | .hand => .cursor Widget.hand
  | .box part x y w h => .rect window (s.colorOf part) (.box x y w h) []

end Slider

end BlockStage.Widget
