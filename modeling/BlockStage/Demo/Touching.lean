import BlockStage.Collision

/-!
# The touching demonstration

Two shapes move over a window and turn back at its edges, and a text tells whether they touch. The
record of a drawing refers to the rectangle of a shape, so every drawing shows its last place.
-/

namespace BlockStage.Demo.Touching

/-- A shape that moves. -/
structure Mover where
  rect : Rect
  image : Surface
  dx : Int
  dy : Int
  deriving DecidableEq, Repr

def window : Surface := { width := 800, height := 600 }

/-- Moves a shape, and turns it back at an edge. -/
def Mover.step (m : Mover) : Mover :=
  let rect := m.rect.moved m.dx m.dy
  { m with
    rect := rect
    dx := if rect.left < 0 || rect.right > window.width then -m.dx else m.dx
    dy := if rect.top < 0 || rect.bottom > window.height then -m.dy else m.dy }

/-- `check_collision` -/
def Mover.touches (a b : Mover) : Bool := touching a.rect a.image b.rect b.image

def mover (side x y dx dy : Int) : Mover :=
  ⟨⟨x - Int.fdiv side 2, y - Int.fdiv side 2, side, side⟩, ⟨side, side, true⟩, dx, dy⟩

def disc : Mover := mover 100 200 300 2 1

def triangle : Mover := mover 80 400 300 (-1) 2

/-- Frames, and whether the shapes touched in each. -/
def play : Nat → Mover × Mover → Mover × Mover × List Bool
  | 0, (a, b) => (a, b, [])
  | n + 1, (a, b) =>
    let a := a.step
    let b := b.step
    let touched := a.touches b
    let (lastA, lastB, rest) := play n (a, b)
    (lastA, lastB, touched :: rest)

def font : Paint.Font := .plain 36

def lettering (n : Nat) : Surface := { width := 18 * n, height := 36, solid := true }

/-- The text that tells whether they touch. -/
def caption (touched : Bool) : String := "collision:" ++ if touched then "True" else "False"

/-- Draws a frame. -/
def drawFrame (a b : Mover) (touched : Bool) : List Call :=
  let text := caption touched
  [.blit window a.image (.rect a.rect), .blit window b.image (.rect b.rect),
    .render (.text text) font.size (Value.ints [255, 255, 255]) .null font.bold font.italic,
    .blit window (lettering text.length) (.point (Value.int 20) (Value.int 20))]

/-- The record of `example_usage` if the window is closed after `quiet` frames, with that frame. -/
def run (quiet : Nat) : List Call :=
  let (a, b, touched) := play (quiet + 1) (disc, triangle)
  [.circle { width := 100, height := 100 } (Value.ints [255, 0, 0]) (Value.ints [50, 50])
      (Value.int 50),
    .polygon { width := 80, height := 80 } (Value.ints [0, 0, 255])
      (.list [Value.ints [40, 0], Value.ints [0, 80], Value.ints [80, 80]])] ++
    touched.flatMap (drawFrame a b) ++ [.quit]

end BlockStage.Demo.Touching
