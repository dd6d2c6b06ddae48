import BlockStage.Host
import BlockStage.Widget.Area

/-!
# Text boxes

A text box is active after the mouse was released over it, and takes the text of the keys that are
pressed then.
-/

namespace BlockStage.Widget

/-- A `TextBox`. -/
structure TextBox where
  area : Area
  placeholder : Value := ""
  text : Value := ""
  lettering : Lettering := {}
  skin : Skin := {}
  minLength : Value := Value.int 0
  /-- The greatest length; none if not positive. -/
  maxLength : Value := Value.int 0
  hover : Value := .bool false
  active : Value := .bool false
  counter : Value
  added : Table Value := []

namespace TextBox

instance : Attributed TextBox where
  slots :=
    Area.slots (·.area) (fun b a => { b with area := a }) ++
    Lettering.slots (·.lettering) (fun b l => { b with lettering := l }) ++
    Skin.slots "hborder" (·.skin) (fun b k => { b with skin := k }) ++
    [.fixed "placeholder" (·.placeholder) (fun b v => { b with placeholder := v }),
      .fixed "text" (·.text) (fun b v => { b with text := v }),
      .fixed "minlen" (·.minLength) (fun b v => { b with minLength := v }),
      .fixed "maxlen" (·.maxLength) (fun b v => { b with maxLength := v }),
      .fixed "hover" (·.hover) (fun b v => { b with hover := v }),
      .fixed "active" (·.active) (fun b v => { b with active := v }),
      .fixed "counter" (·.counter) (fun b v => { b with counter := v })]
  added := (·.added)
  withAdded b t := { b with added := t }

/-- Calling a method that may be hidden. -/
def can (action : String) : Reaction TextBox Call Unit := do
  Reaction.ofExcept (Attributed.can? (← Reaction.state) action)

/-- `TextBox.isHover` -/
def notice (mouse : Number × Number) : Reaction TextBox Call Bool := do
  let hovered ← Reaction.ofExcept ((← Reaction.state).area.over? mouse)
  Reaction.change fun b => { b with hover := .bool hovered }
  if hovered then Reaction.emit (.cursor beam)
  return hovered

/-- Draws the text or the placeholder. -/
def drawText (window : Surface) (b : TextBox) : Paint (Value × Value) := do
  let lit ← Paint.ofExcept (do if ← holds? b.hover then return true else holds? b.active)
  b.skin.fill window b.area lit
  b.skin.outline window b.area lit
  needAll [b.lettering.font, b.lettering.size, b.lettering.bold, b.lettering.italic, b.text]
  let shown := if b.text.isText "" then b.placeholder else b.text
  let image ← b.lettering.render shown
  let (x, y) ← Paint.ofExcept (b.area.middle? image)
  Paint.blit window image (.point x y)
  return (← Paint.ofExcept (Arith.add x (Value.int image.width)), y)

/-- Draws the caret after the text. -/
def drawCaret (window : Surface) (b : TextBox) (x y : Value) : Paint Unit := do
  let image ← b.lettering.render "|"
  Paint.blit window image (.point x y)

/-- Whether the caret shows after a time. -/
def caretShows? (waited active : Value) : Except Fault Bool := do
  if ← Arith.le (Value.int 1) waited then
    if ← Arith.le waited (Value.int 2) then holds? active else return false
  else return false

/-- `TextBox.draw` at the time `now`. The caret shows for a second in every two. -/
def draw (window : Surface) (mouse : Number × Number) (now : Float) :
    Reaction TextBox Call Unit := do
  can "isHover"
  let _ ← notice mouse
  let b ← Reaction.state
  let (x, y) ← (drawText window b).lift
  let waited ← Reaction.ofExcept (Arith.sub (Value.float now) b.counter)
  if ← Reaction.ofExcept (caretShows? waited b.active) then (drawCaret window b x y).lift
  else if ← Reaction.ofExcept (Arith.le (Value.int 2) waited) then
    Reaction.change fun b => { b with counter := Value.float now }

/-! ## Typing -/

/-- Pieces of text as one. -/
def joined? (parts : List Value) : Except Fault String := do
  let texts ← parts.mapM fun
    | .text s => .ok s
    | _ => .error .wrongKind
  return String.join texts

/-- A text without its last character. One that was set from outside may come in pieces. -/
def shortened? : Value → Except Fault String
  | .text s => .ok (String.ofList s.toList.dropLast)
  | v => do joined? (← (← v.present?).elements?).dropLast

/-- A text with more at its end. -/
def extended? (text : Value) (written : List Value) : Except Fault String :=
  match text, written with
  | .text s, [.text t] => .ok (s ++ t)
  | .text s, [] => .ok s
  | v, written => do joined? ((← (← v.present?).elements?) ++ written)

/-- `TextBox.backspacePressed` -/
def backspace : Reaction TextBox Call Unit := do
  let text ← Reaction.ofExcept (shortened? (← Reaction.state).text)
  Reaction.change fun b => { b with text := .text text }

def typedLength? : Value → Except Fault Nat
  | .text s => .ok s.length
  | v => do return (← (← v.present?).elements?).length

/-- Whether the text is shorter than it may be. -/
def hasRoom? (b : TextBox) : Except Fault Bool := do
  if ← Arith.lt (Value.int (← typedLength? b.text)) b.maxLength then return true
  Arith.le b.maxLength (Value.int 0)

/-- `TextBox.textAppend` -/
def append (written : Value) : Reaction TextBox Call Unit := do
  let b ← Reaction.state
  let more := if ← Reaction.ofExcept b.hasRoom? then [written] else []
  let text ← Reaction.ofExcept (extended? b.text more)
  Reaction.change fun b => { b with text := .text text }

/-- `TextBox.typing` -/
def typing (e : Event) : Reaction TextBox Call Unit := do
  if (← Reaction.ofExcept (holds? (← Reaction.state).active)) && e.isKind Event.keyDown then
    if (← Reaction.ofExcept e.key?).same (Value.int Key.backspace) then
      can "backspacePressed"
      backspace
    else
      let written ← Reaction.ofExcept e.written?
      can "textAppend"
      append written

/-- `TextBox.getPressed`: a release over the box makes it active, and one elsewhere ends that. -/
def press (e : Event) : Reaction TextBox Call (Option Bool) := do
  if e.isKind Event.mouseUp then
    let hover ← Reaction.ofExcept (holds? (← Reaction.state).hover)
    Reaction.change fun b => { b with active := .bool hover }
    return some hover
  return none

/-- `TextBox.events` -/
def handle (e : Event) : Reaction TextBox Call Unit := do
  can "getPressed"
  let _ ← press e
  can "typing"
  typing e

end TextBox

end BlockStage.Widget
