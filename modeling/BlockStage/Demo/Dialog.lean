import BlockStage.Canvas
import BlockStage.Event

/-!
# The dialog demonstration

A window that asks for a text in a dialog at every event, and shows the last answer.
-/

namespace BlockStage.Demo

/-- The last answer, and those to come. -/
structure Dialog where
  text : Value := ""
  /-- What the user will answer; nothing after that. -/
  answers : List Value

namespace Dialog

def window : Surface := { width := 500, height := 400 }

def font : Paint.Font := .plain 32

/-- `get_input` -/
def ask : Reaction Dialog Call Unit := do
  Reaction.emit (.ask "输入" "请输入文本：")
  Reaction.change fun d => { text := d.answers.headD "", answers := d.answers.drop 1 }

/-- What an event does. -/
def handle (e : Event) : Reaction Dialog Call Unit := do
  if e.isKind Event.windowClosed then
    Reaction.emit .quit
    throw .exit
  if e.isKind Event.keyDown then
    let _ ← Reaction.ofExcept e.key?
  ask

/-- Draws the last answer. -/
def draw (text : Value) : Paint Unit := do
  let _ ← Paint.fill window (Value.ints [0, 0, 0])
  let image ← Paint.render font text (Value.ints [255, 255, 255])
  Paint.blit window image (.point (Value.int 100) (Value.int 100))
  Paint.record .flip

/-- A round of the main loop. -/
def frame (events : List Event) : Reaction Dialog Call Unit := do
  for e in events do
    handle e
  (draw (← Reaction.state).text).lift

/-- Rounds up to the one that closes the window. -/
def play : List (List Event) → Reaction Dialog Call Unit
  | [] => frame [Event.close]
  | events :: rest => do
    frame events
    play rest

/-- The record of a run. -/
def run (answers : List Value) (batches : List (List Event)) : Except Fault Unit × List Call :=
  let whole : Reaction Dialog Call Unit := do
    Reaction.emitAll [.caption "文本输入框示例", .withdraw]
    play batches
  let (answer, _, calls) := whole.react { answers := answers }
  (answer, calls)

end Dialog

end BlockStage.Demo
