import BlockStage.Widget.Area

/-!
# Push buttons

A button lights up under the mouse, and is pressed when the mouse is released over it.
-/

namespace BlockStage.Widget

/-- A `Button`, `LinkButton`, `AppButton` or `ImageButton`. -/
inductive Purpose where
  | plain
  | link (page : Value)
  | app (path : Value)
  /-- It shows one picture, and another under the mouse. -/
  | picture (image hoverImage : Value)

/-- The attributes of a button. -/
structure Button where
  area : Area
  text : Value
  lettering : Lettering := {}
  skin : Skin := {}
  purpose : Purpose := .plain
  visible : Value := .bool true
  hover : Value := .bool false
  added : Table Value := []

namespace Button

/-- The attributes that only some buttons have. -/
def purposeSlots : List (Slot Button) := [
  ⟨"link",
    fun b => match b.purpose with
      | .link page => some page
      | _ => none,
    fun b v => match b.purpose with
      | .link _ => some { b with purpose := .link v }
      | _ => none⟩,
  ⟨"app",
    fun b => match b.purpose with
      | .app path => some path
      | _ => none,
    fun b v => match b.purpose with
      | .app _ => some { b with purpose := .app v }
      | _ => none⟩,
  ⟨"img",
    fun b => match b.purpose with
      | .picture image _ => some image
      | _ => none,
    fun b v => match b.purpose with
      | .picture _ hoverImage => some { b with purpose := .picture v hoverImage }
      | _ => none⟩,
  ⟨"hImg",
    fun b => match b.purpose with
      | .picture _ hoverImage => some hoverImage
      | _ => none,
    fun b v => match b.purpose with
      | .picture image _ => some { b with purpose := .picture image v }
      | _ => none⟩]

instance : Attributed Button where
  slots :=
    Area.slots (·.area) (fun b a => { b with area := a }) ++
    Lettering.slots (·.lettering) (fun b l => { b with lettering := l }) ++
    Skin.slots "hBorder" (·.skin) (fun b k => { b with skin := k }) ++
    [.fixed "text" (·.text) (fun b v => { b with text := v }),
      .fixed "visible" (·.visible) (fun b v => { b with visible := v }),
      .fixed "hover" (·.hover) (fun b v => { b with hover := v })] ++
    purposeSlots
  added := (·.added)
  withAdded b t := { b with added := t }

/-- `isHover` -/
def notice (mouse : Number × Number) : Reaction Button Call Bool := do
  let hovered ← Reaction.ofExcept ((← Reaction.state).area.over? mouse)
  Reaction.change fun b => { b with hover := .bool hovered }
  if hovered then Reaction.emit (.cursor hand)
  return hovered

/-- Draws area, border and text. -/
def drawFace (window : Surface) (b : Button) : Paint Unit := do
  let lit ← Paint.ofExcept (holds? b.hover)
  b.skin.fill window b.area lit
  if ← Paint.ofExcept (Arith.lt (Value.int 0) b.skin.borderWidth) then
    b.skin.outline window b.area lit
  let _ ← Paint.ofExcept b.lettering.typeface?
  let image ← b.lettering.render b.text
  let (x, y) ← Paint.ofExcept (b.area.middle? image)
  Paint.blit window image (.point x y)

/-- `draw` -/
def draw (window : Surface) (images : Table Surface) (mouse : Number × Number) :
    Reaction Button Call Unit := do
  let b ← Reaction.state
  if !(← Reaction.ofExcept (holds? b.visible)) then
    Reaction.change fun b => { b with hover := .bool false }
    return ()
  Reaction.ofExcept (Attributed.can? b "isHover")
  let _ ← notice mouse
  let b ← Reaction.state
  match b.purpose with
  | .picture image hoverImage =>
    let path ← Reaction.ofExcept (if b.hover.holds then hoverImage else image).present?
    let picture ← (Paint.load images path).lift
    (needAll [b.area.x, b.area.y]).lift
    (Paint.blit window picture (.point b.area.x b.area.y)).lift
  | _ => (drawFace window b).lift

/-- `getPressed`: a `LinkButton` opens a page, and an `AppButton` starts a program. -/
def press (e : Event) : Reaction Button Call Bool := do
  let b ← Reaction.state
  if !e.isKind Event.mouseUp then return false
  if !(← Reaction.ofExcept (holds? b.hover)) then return false
  match b.purpose with
  | .link page => Reaction.emit (.openPage (← Reaction.ofExcept page.present?) 2)
  | .app path => Reaction.emit (.startFile (← Reaction.ofExcept path.present?))
  | _ => pure ()
  return true

end Button

end BlockStage.Widget
