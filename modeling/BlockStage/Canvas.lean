import BlockStage.Reaction
import BlockStage.Value.Display

/-!
# The canvas

Surfaces that have a size, rectangles, and the record of what was done. Nothing is painted; a surface
only remembers whether it has any colour.
-/

namespace BlockStage

/-- A `pygame.Surface`. -/
structure Surface where
  width : Int
  height : Int
  solid : Bool := false
  deriving DecidableEq, Repr, Inhabited

/-- A `pygame.Rect`. -/
structure Rect where
  x : Int
  y : Int
  w : Int
  h : Int
  deriving DecidableEq, Repr, Inhabited

/-- Where something is drawn. -/
inductive Spot where
  | point (x y : Value)
  | box (x y w h : Value)
  | rect (r : Rect)

/-- The limits of a script. -/
inductive Limit where
  | ticks
  | fuel
  deriving DecidableEq, Repr

/-- What the host is told. -/
inductive Call where
  | caption (title : String)
  | fill (on : Surface) (color : Value)
  | blit (on source : Surface) (dest : Spot)
  | render (text size color ground bold italic : Value)
  | load (path : Value)
  | rotozoom (image : Surface) (angle scale : Value)
  | rotate (image : Surface) (angle : Value)
  | scale (image : Surface) (size : Value)
  | rect (on : Surface) (color : Value) (area : Spot) (style : List Value)
  | circle (on : Surface) (color center radius : Value)
  | polygon (on : Surface) (color corners : Value)
  | update
  | flip
  | quit
  | cursor (shape : Int)
  | openPage (url : Value) (mode : Int)
  | startFile (path : Value)
  | print (line : String)
  | withdraw
  | ask (title prompt : String)
  | sleep (seconds : Float)
  | join (thread : Nat) (timeout : Float)
  | killed (why : Limit)
  | died (why : Fault)

/-- The lines of a text. -/
def Call.lines : List Char → List (List Char)
  | [] => [[]]
  | c :: rest =>
    if c = '\n' then [] :: lines rest
    else
      match lines rest with
      | line :: more => (c :: line) :: more
      | [] => [[c]]

namespace Value

def ints (ns : List Int) : Value := .list (ns.map int)

end Value

def Spot.origin : Spot := .point (Value.int 0) (Value.int 0)

namespace Surface

/-- A fresh surface. Pixels are integers; the display refuses a negative size. -/
def create? (width height : Value) : Except Fault Surface := do
  let w ← width.toInt?
  let h ← height.toInt?
  if w < 0 || h < 0 then throw .display else return { width := w, height := h }

def size (s : Surface) : Value := Value.ints [s.width, s.height]

def painted (s : Surface) : Surface := { s with solid := true }

/-- `get_rect` with the upper left corner at a point. -/
def placedAt (s : Surface) (x y : Value) : Except Fault Rect := do
  let pixelX ← x.toInt?
  let pixelY ← y.toInt?
  return ⟨pixelX, pixelY, s.width, s.height⟩

/-- `get_rect` with the middle at a point. -/
def centredAt (s : Surface) (x y : Value) : Except Fault Rect := do
  let pixelX ← x.toInt?
  let pixelY ← y.toInt?
  return ⟨pixelX - Int.fdiv s.width 2, pixelY - Int.fdiv s.height 2, s.width, s.height⟩

end Surface

namespace Rect

/-- The edges of a rectangle. -/
def left (r : Rect) : Int := r.x
def right (r : Rect) : Int := r.x + r.w
def top (r : Rect) : Int := r.y
def bottom (r : Rect) : Int := r.y + r.h

def center (r : Rect) : Int × Int := (r.x + Int.fdiv r.w 2, r.y + Int.fdiv r.h 2)

def topRight (r : Rect) : Int × Int := (r.x + r.w, r.y)

def toValue (r : Rect) : Value := Value.ints [r.x, r.y, r.w, r.h]

/-- `Rect.colliderect` -/
def meets (a b : Rect) : Bool :=
  a.x < b.x + b.w && b.x < a.x + a.w && a.y < b.y + b.h && b.y < a.y + a.h

/-- `Rect.collidepoint` -/
def holdsPoint (r : Rect) (x y : Number) : Bool :=
  Number.le (.int r.x) x && Number.lt x (.int (r.x + r.w)) &&
    Number.le (.int r.y) y && Number.lt y (.int (r.y + r.h))

def ofValues? (x y w h : Value) : Except Fault Rect := do
  let x ← x.toInt?
  let y ← y.toInt?
  let w ← w.toInt?
  let h ← h.toInt?
  return ⟨x, y, w, h⟩

/-- `Rect.move_ip` -/
def moved (r : Rect) (dx dy : Int) : Rect := { r with x := r.x + dx, y := r.y + dy }

end Rect

/-- Drawing: it may fail, and it leaves a record of what was done before. -/
abbrev Paint := Reaction Unit Call

namespace Paint

def record (c : Call) : Paint Unit := Reaction.emit c

def ofExcept {α : Type} (e : Except Fault α) : Paint α := Reaction.ofExcept e

/-- Drawing as part of a reaction. -/
def lift {σ α : Type} (p : Paint α) : Reaction σ Call α := do
  let (answer, _, calls) := p.react ()
  Reaction.emitAll calls
  Reaction.ofExcept answer

/-- A `pygame.font.Font`. -/
structure Font where
  size : Value
  bold : Value := .bool false
  italic : Value := .bool false

def Font.plain (size : Int) : Font := { size := Value.int size }

/-- The size of a text: half the size of the type for each character. -/
def extent? (size : Number) (length : Nat) : Except Fault Surface := do
  let width ← Number.mul (.int length) size.half
  let blank ← Surface.create? (.num width) (.num size)
  return blank.painted

/-- `Font.render`. A value without a length has no text, and a negative size makes no surface; both show only
after the attempt is recorded. -/
def render (font : Font) (text color : Value) (ground : Value := .null) : Paint Surface := do
  record (.render text font.size color ground font.bold font.italic)
  let n ← ofExcept text.length?
  ofExcept (do extent? (← font.size.number?) n)

/-- `pygame.draw.rect` -/
def rect (on : Surface) (color : Value) (x y w h : Value) (style : List Value := []) :
    Paint Rect := do
  record (.rect on color (.box x y w h) style)
  ofExcept (Rect.ofValues? x y w h)

def print (text : String) : Paint Unit :=
  Reaction.emitAll ((Call.lines text.toList).map fun line => .print (String.ofList line))

/-- `Surface.blit` -/
def blit (on source : Surface) (dest : Spot) : Paint Unit := record (.blit on source dest)

/-- `pygame.image.load` -/
def load (images : Table Surface) (path : Value) : Paint Surface := do
  record (.load path)
  match ← ofExcept (Value.find? images path) with
  | some image => return image
  | none => throw .fileNotFound

/-- `Surface.fill` -/
def fill (on : Surface) (color : Value) : Paint Surface := do
  record (.fill on color)
  return on.painted

end Paint

end BlockStage
