import BlockStage.Arith
import BlockStage.Canvas
import BlockStage.Event
import BlockStage.Widget.Attribute

/-!
# Areas

The rectangle that a widget takes in the window, and how a text is set in its middle.
-/

namespace BlockStage.Widget

/-- The shapes of the mouse pointer. -/
def hand : Int := 11
def beam : Int := 1

/-- Attributes that have to be there. -/
def needAll (vs : List Value) : Paint Unit := vs.forM fun v => do
  let _ ← Paint.ofExcept v.present?

def holds? (v : Value) : Except Fault Bool := v.present?.map Value.holds

/-- `x`, `y`, `width` and `height`. -/
structure Area where
  x : Value
  y : Value
  width : Value
  height : Value

namespace Area

/-- Whether a coordinate lies in a length. -/
def within? (start length : Value) (m : Number) : Except Fault Bool := do
  if ← Arith.le start (.num m) then Arith.le (.num m) (← Arith.add start length)
  else return false

/-- Whether the mouse is in the area (`isHover`). -/
def over? (a : Area) (mouse : Number × Number) : Except Fault Bool := do
  if ← within? a.x a.width mouse.1 then within? a.y a.height mouse.2 else return false

/-- Where a side begins in the middle of another. -/
def centred? (start length : Value) (inner : Int) : Except Fault Value := do
  Arith.sub (← Arith.add start (← Arith.half length)) (Value.int (Int.fdiv inner 2))

/-- Where a picture is in the middle of the area. -/
def middle? (a : Area) (image : Surface) : Except Fault (Value × Value) := do
  return (← centred? a.x a.width image.width, ← centred? a.y a.height image.height)

/-- Draws the area. -/
def fill (a : Area) (window : Surface) (color : Value) (style : List Value) : Paint Unit := do
  needAll ([color, a.x, a.y, a.width, a.height] ++ style)
  let _ ← Paint.rect window color a.x a.y a.width a.height style

/-- The attributes of an area that is part of a `σ`. -/
def slots {σ : Type} (get : σ → Area) (set : σ → Area → σ) : List (Slot σ) := [
  .fixed "x" (fun s => (get s).x) (fun s v => set s { get s with x := v }),
  .fixed "y" (fun s => (get s).y) (fun s v => set s { get s with y := v }),
  .fixed "width" (fun s => (get s).width) (fun s v => set s { get s with width := v }),
  .fixed "height" (fun s => (get s).height) (fun s v => set s { get s with height := v })]

end Area

/-- `font`, `textColor`, `fontSize`, `bold` and `italic`. -/
structure Lettering where
  font : Value := "calibri"
  size : Value := Value.int 11
  bold : Value := .bool false
  italic : Value := .bool false
  color : Value := Value.ints [0, 0, 0]

namespace Lettering

def typeface (l : Lettering) : Paint.Font := ⟨l.size, l.bold, l.italic⟩

/-- Draws a text. -/
def render (l : Lettering) (text : Value) (ground : Value := .null) : Paint Surface := do
  needAll [l.font, l.size, l.bold, l.italic, text, l.color, ground]
  Paint.render l.typeface text l.color ground

/-- The type, if all its attributes are there. -/
def typeface? (l : Lettering) : Except Fault Paint.Font :=
  match l.font with
  | .text _ => .ok l.typeface
  | _ => .error .missingMember

/-- The attributes of a lettering that is part of a `σ`. -/
def slots {σ : Type} (get : σ → Lettering) (set : σ → Lettering → σ) : List (Slot σ) := [
  .fixed "font" (fun s => (get s).font) (fun s v => set s { get s with font := v }),
  .fixed "fs" (fun s => (get s).size) (fun s v => set s { get s with size := v }),
  .fixed "bold" (fun s => (get s).bold) (fun s v => set s { get s with bold := v }),
  .fixed "italic" (fun s => (get s).italic) (fun s v => set s { get s with italic := v }),
  .fixed "color" (fun s => (get s).color) (fun s v => set s { get s with color := v })]

end Lettering

/-- The colours of a widget, which change when the mouse is over it. -/
structure Skin where
  ground : Value := Value.ints [230, 230, 230]
  hoverGround : Value := Value.ints [200, 200, 200]
  border : Value := Value.ints [230, 230, 230]
  hoverBorder : Value := Value.ints [200, 200, 200]
  borderWidth : Value := Value.int 1
  borderRadius : Value := Value.int (-1)

namespace Skin

def fill (k : Skin) (window : Surface) (a : Area) (lit : Bool) : Paint Unit :=
  a.fill window (if lit then k.hoverGround else k.ground) [Value.int 0, k.borderRadius]

def outline (k : Skin) (window : Surface) (a : Area) (lit : Bool) : Paint Unit :=
  a.fill window (if lit then k.hoverBorder else k.border) [k.borderWidth, k.borderRadius]

/-- The attributes of a skin that is part of a `σ`; `hoverBorder` is what the colour of the border under the
mouse is called. -/
def slots {σ : Type} (hoverBorder : String) (get : σ → Skin) (set : σ → Skin → σ) :
    List (Slot σ) := [
  .fixed "bg" (fun s => (get s).ground) (fun s v => set s { get s with ground := v }),
  .fixed "bgHover" (fun s => (get s).hoverGround) (fun s v => set s { get s with hoverGround := v }),
  .fixed "border" (fun s => (get s).border) (fun s v => set s { get s with border := v }),
  .fixed hoverBorder (fun s => (get s).hoverBorder) (fun s v => set s { get s with hoverBorder := v }),
  .fixed "borderWidth" (fun s => (get s).borderWidth) (fun s v => set s { get s with borderWidth := v }),
  .fixed "borderRadius" (fun s => (get s).borderRadius) (fun s v => set s { get s with borderRadius := v })]

end Skin

end BlockStage.Widget
