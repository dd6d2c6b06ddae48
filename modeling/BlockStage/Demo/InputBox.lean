import BlockStage.Canvas
import BlockStage.Event

/-!
# The input box demonstration

A click on the box turns typing on and off; the enter key prints the line and begins a new one. The
record of a drawing refers to the box, so in the record of a finished run every drawing shows the last
width. Closing the window ends the run with a fault, because what should end it is not defined.
-/

namespace BlockStage.Demo

/-- The line, and whether it is active. -/
structure InputBox where
  active : Bool := false
  text : String := ""
  width : Int := 200

namespace InputBox

def window : Surface := { width := 400, height := 300 }

def font : Paint.Font := .plain 32

def lettering (n : Nat) : Surface := { width := 16 * n, height := 32, solid := true }

/-- The `input_box`. -/
def rect (b : InputBox) : Rect := ⟨100, 100, b.width, 32⟩

/-- What can be seen of a run. -/
inductive Mark where
  | printed (text : String)
  | frame (text : String) (active : Bool)
  | closed

/-- Whether a coordinate lies in a length. -/
def within (start length : Int) (x : Number) : Bool :=
  Number.le (.int start) x && x.lt (.int (start + length))

/-- Whether a point lies in the box. The second coordinate is not looked at if the first lies outside. -/
def over? (b : InputBox) (pos : Value) : Except Fault Bool := do
  match ← pos.elements? with
  | [x, y] =>
    if within b.rect.x b.rect.w (← x.number?) then return within b.rect.y b.rect.h (← y.number?)
    else return false
  | _ => throw .badValue

/-- A click at a point. -/
def click (pos : Value) : Reaction InputBox Mark Unit := do
  let hit ← Reaction.ofExcept ((← Reaction.state).over? pos)
  Reaction.change fun b => { b with active := hit && !b.active }

/-- A key is pressed. -/
def type (e : Event) : Reaction InputBox Mark Unit := do
  let key ← Reaction.ofExcept e.key?
  if key.same (Value.int Key.enter) then
    Reaction.emit (.printed (← Reaction.state).text)
    Reaction.change fun b => { b with text := "" }
  else if key.same (Value.int Key.backspace) then
    Reaction.change fun b => { b with text := String.ofList b.text.toList.dropLast }
  else
    match ← Reaction.ofExcept e.written? with
    | .text s => Reaction.change fun b => { b with text := b.text ++ s }
    | _ => throw .wrongKind

/-- What an event does. -/
def handle (e : Event) : Reaction InputBox Mark Unit := do
  if e.isKind Event.windowClosed then
    Reaction.emit .closed
    throw .undefinedName
  if e.isKind Event.mouseDown then click (← Reaction.ofExcept (e.detail? "pos"))
  if e.isKind Event.keyDown && (← Reaction.state).active then type e

/-- A round of the main loop. -/
def frame (events : List Event) : Reaction InputBox Mark Unit := do
  for e in events do
    handle e
  let b ← Reaction.state
  Reaction.change fun b =>
    { b with width := max 200 ((lettering b.text.length).width + 10) }
  Reaction.emit (.frame b.text b.active)

/-- Rounds up to the one that closes the window. -/
def play : List (List Event) → Reaction InputBox Mark Unit
  | [] => frame [Event.close]
  | events :: rest => do
    frame events
    play rest

/-- A mark in the record of a run that ends with this box. -/
def Mark.calls (b : InputBox) : Mark → List Call
  | .printed text => ((Paint.print text).react ()).2.2
  | .closed => [.quit]
  | .frame text active =>
    let color : Value := if active then "dodgerblue2" else "lightskyblue3"
    [.fill window (Value.ints [255, 255, 255]),
      .render text font.size color .null font.bold font.italic,
      .blit window (lettering text.length) (.point (Value.int 105) (Value.int 105)),
      .rect window color (.rect b.rect) [Value.int 2], .flip, .update]

/-- The record of a run. -/
def run (batches : List (List Event)) : Except Fault Unit × List Call :=
  let (answer, b, marks) := (play batches).react {}
  (answer, marks.flatMap (Mark.calls b))

end InputBox

end BlockStage.Demo
