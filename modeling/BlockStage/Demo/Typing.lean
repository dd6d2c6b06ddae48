import BlockStage.Widget.TextBox

/-!
# The typing demonstration

A window with a text box that is active from the start.
-/

namespace BlockStage.Demo.Typing

open Widget

def window : Surface := { width := 500, height := 400 }

/-- The `TextBox` of the window. -/
def box (now : Float) : TextBox :=
  { area := ⟨Value.int 100, Value.int 100, Value.int 300, Value.int 40⟩
    text := "1111"
    active := .bool true
    counter := Value.float now }

/-- A round of the main loop. -/
def frame (mouse : Number × Number) (now : Float) (events : List Event) :
    Reaction TextBox Call Unit := do
  for e in events do
    TextBox.typing e
  let _ ← (Paint.fill window (Value.ints [0, 0, 0])).lift
  TextBox.draw window mouse now
  Reaction.emit .flip

/-- Plays the frames up to the one that closes the window. -/
def play (mouse : Number × Number) (now : Float) : List (List Event) → Reaction TextBox Call Unit
  | [] => frame mouse now [Event.close]
  | events :: rest => do
    frame mouse now events
    if events.any (·.isKind Event.windowClosed) then return ()
    play mouse now rest

/-- The record of a run. -/
def run (mouse : Number × Number) (now : Float) (batches : List (List Event)) :
    Except Fault Unit × List Call :=
  let whole : Reaction TextBox Call Unit := do
    Reaction.emit (.caption "Pygame 输入示例")
    play mouse now batches
    Reaction.emit .quit
  let (answer, _, calls) := whole.react (box now)
  (answer, calls)

end BlockStage.Demo.Typing
