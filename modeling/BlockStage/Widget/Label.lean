import BlockStage.Widget.Area

/-!
# Labels

With a greatest width a label makes the type smaller until the text fits.
-/

namespace BlockStage.Widget

/-- A `Label`. -/
structure Label where
  x : Value := Value.int 0
  y : Value := Value.int 0
  /-- The greatest width; none if not positive. -/
  maxWidth : Value := Value.int 0
  text : Value := "Text"
  lettering : Lettering := {}
  ground : Value := Value.ints [255, 255, 255]
  transparent : Value := .bool true
  visible : Value := .bool true
  centered : Value := .bool false
  added : Table Value := []

namespace Label

instance : Attributed Label where
  slots :=
    Lettering.slots (·.lettering) (fun l t => { l with lettering := t }) ++
    [.fixed "x" (·.x) (fun l v => { l with x := v }),
      .fixed "y" (·.y) (fun l v => { l with y := v }),
      .fixed "maxwidth" (·.maxWidth) (fun l v => { l with maxWidth := v }),
      .fixed "text" (·.text) (fun l v => { l with text := v }),
      .fixed "bg" (·.ground) (fun l v => { l with ground := v }),
      .fixed "transparent" (·.transparent) (fun l v => { l with transparent := v }),
      .fixed "visible" (·.visible) (fun l v => { l with visible := v }),
      .fixed "center" (·.centered) (fun l v => { l with centered := v })]
  added := (·.added)
  withAdded l t := { l with added := t }

/-- Draws the text in a size. -/
def renderIn (l : Label) (ground size : Value) : Paint Surface :=
  { l.lettering with size := size }.render l.text ground

/-- Makes the type smaller, `n` times at most, while the text is too wide. -/
def shrink (l : Label) (ground : Value) : Nat → Value → Surface → Paint Surface
  | 0, _, image => return image
  | n + 1, size, image => do
    if ← Paint.ofExcept (Arith.lt l.maxWidth (Value.int image.width)) then
      let smaller ← Paint.ofExcept (Arith.sub size (Value.int 1))
      let image ← renderIn l ground smaller
      shrink l ground n smaller image
    else return image

/-- How often the type can be made smaller. -/
def shrinkings (size : Value) : Except Fault Nat := do
  return (← (← size.number?).truncate?).toNat

/-- `Label.draw` -/
def draw (window : Surface) : Reaction Label Call Unit := do
  let l ← Reaction.state
  if !(← Reaction.ofExcept (holds? l.visible)) then return ()
  Paint.lift do
    let ground := if ← Paint.ofExcept (holds? l.transparent) then .null else l.ground
    needAll [ground, l.lettering.size]
    let _ ← Paint.ofExcept l.lettering.typeface?
    let size := l.lettering.size
    let image ← renderIn l ground size
    let limited ← Paint.ofExcept (Arith.lt (Value.int 0) l.maxWidth)
    let image ← if limited then
        shrink l ground (← Paint.ofExcept (shrinkings size)) size image
      else pure image
    let centered ← if limited then Paint.ofExcept (holds? l.centered) else pure false
    let x ← if centered then Paint.ofExcept (Area.centred? l.x l.maxWidth image.width)
      else pure l.x
    needAll [x, l.y]
    Paint.blit window image (.point x l.y)

/-- `Label.changeText` -/
def changeText (text : Value) : Reaction Label Call Unit :=
  Reaction.change fun l => { l with text := text }

/-- `Label.toggleVisibility` -/
def toggleVisibility : Reaction Label Call Unit := do
  let shown ← Reaction.ofExcept (holds? (← Reaction.state).visible)
  Reaction.change fun l => { l with visible := .bool !shown }

end Label

end BlockStage.Widget
