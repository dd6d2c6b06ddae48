import BlockStage.Canvas

/-!
# Speech bubbles

A text of more than fifty characters is cut to ten.
-/

namespace BlockStage

namespace Value

def black : Value := ints [0, 0, 0]
def white : Value := ints [255, 255, 255]
def orange : Value := ints [255, 140, 26]
def paleBlue : Value := ints [230, 240, 255]

end Value

/-- The font of all texts on the stage. -/
def stageFont : Paint.Font := .plain 30

/-- A text that is longer than `limit` is cut. -/
def shortened? (limit : Nat) (v : Value) : Except Fault Value := do
  if (← v.length?) ≤ limit then return v
  match v with
  | .text s => return .text (String.ofList (s.toList.take 10) ++ "...")
  | _ => throw .wrongKind

namespace Bubble

def margin : Int := 5

/-- `drawtext`: what a sprite says, at the upper right corner of its picture. -/
def draw (on : Surface) (words : Except Fault Value) (rect : Except Fault Rect) : Paint Unit := do
  let words ← Paint.ofExcept words
  if words.isText "" then return ()
  let rect ← Paint.ofExcept rect
  let text ← Paint.ofExcept (shortened? 50 words)
  let image ← Paint.render stageFont text .black
  let (x, y) := rect.topRight
  let box (color : Value) (grow : Int) (line : Int) : Paint Unit := do
    let _ ← Paint.rect on color (Value.int (x - grow)) (Value.int (y - grow))
      (Value.int (image.width + 2 * grow)) (Value.int (image.height + 2 * grow))
      [Value.int line, Value.int 10]
  box .white margin 0
  box .white 0 0
  box .black margin 2
  Paint.blit on image (.point (Value.int x) (Value.int y))

end Bubble

end BlockStage
