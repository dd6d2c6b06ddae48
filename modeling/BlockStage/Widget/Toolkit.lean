import BlockStage.Widget.Button
import BlockStage.Widget.Label
import BlockStage.Widget.Slider
import BlockStage.Widget.TextBox

/-!
# Widgets by name

A program makes widgets from named options (`Item.create?`), sets their attributes (`Item.set`) and
calls their methods (`Item.use`).
-/

namespace BlockStage.Widget

/-- A widget. -/
inductive Item where
  | button (b : Button)
  | label (l : Label)
  | slider (s : Slider Value)
  | textBox (b : TextBox)

/-! ## Making -/

/-- The arguments of a constructor. -/
abbrev Options := Table Value

namespace Options

/-- An option, or its default. -/
def get (o : Options) (name : String) (fallback : Value) : Value :=
  (Table.get? o name).getD fallback

def int (o : Options) (name : String) (n : Int) : Value := o.get name (Value.int n)

def area (o : Options) (x y width height : Int) : Area :=
  ⟨o.int "x" x, o.int "y" y, o.int "width" width, o.int "height" height⟩

/-- The lettering, whose size goes by different names. -/
def lettering (o : Options) (size : String) : Lettering :=
  let l : Lettering := {}
  { font := o.get "font" l.font
    size := o.get size l.size
    bold := o.get "bold" l.bold
    italic := o.get "italic" l.italic
    color := o.get "color" l.color }

def skin (o : Options) : Skin :=
  let k : Skin := {}
  { ground := o.get "background" k.ground
    hoverGround := o.get "backgroundHover" k.hoverGround
    border := o.get "borderColour" k.border
    hoverBorder := o.get "borderHoverColour" k.hoverBorder
    borderWidth := o.get "borderWeight" k.borderWidth
    borderRadius := o.get "borderRadius" k.borderRadius }

/-- `Button.__init__` -/
def button (o : Options) (purpose : Purpose) : Button :=
  { area := o.area 0 0 200 50
    text := o.get "text" "TEXT HERE"
    lettering := o.lettering "fontsize"
    skin := o.skin
    purpose := purpose }

/-- `ImageButton.__init__` -/
def pictureButton (o : Options) : Button :=
  let black := Value.ints [0, 0, 0]
  { area := o.area 0 0 200 50
    text := ""
    lettering := { font := "", size := Value.int 0, color := black }
    skin :=
      { ground := black, hoverGround := black, border := black, hoverBorder := black,
        borderWidth := Value.int 0 }
    purpose := .picture (o.get "image" "button.png") (o.get "hoverImage" "button.png") }

/-- `Label.__init__` -/
def label (o : Options) : Label :=
  let l : Label := {}
  { x := o.get "x" l.x
    y := o.get "y" l.y
    maxWidth := o.get "maxwidth" l.maxWidth
    text := o.get "text" l.text
    lettering := o.lettering "fontSize"
    ground := o.get "background" l.ground
    transparent := o.get "transparentBackground" l.transparent
    visible := o.get "visible" l.visible
    centered := o.get "centered" l.centered }

/-- `VerticalSlider.__init__` and `HorizontalSlider.__init__`, with their defaults. -/
def slider (o : Options) (orientation : Orientation) (x y width height : Int) : Slider Value :=
  let a := o.area x y width height
  { orientation := orientation
    x := a.x
    y := a.y
    width := a.width
    height := a.height
    handle := o.int "handleWidth" 10
    color := o.get "color" (Value.ints [20, 20, 20])
    barColor := o.get "sliderColor" (Value.ints [200, 0, 0])
    handleColor := o.get "handleColor" (Value.ints [50, 50, 50])
    percent := o.int "sliderPercent" 50
    visible := o.get "visible" (.bool true) }

/-- `TextBox.__init__` -/
def textBox (o : Options) (now : Float) : TextBox :=
  { area := o.area 0 0 200 50
    placeholder := o.get "placeholder" ""
    lettering := o.lettering "fontSize"
    skin := o.skin
    minLength := o.int "minlen" 0
    maxLength := o.int "maxlen" 0
    counter := Value.float now }

/-- The parameters of the constructors. -/
def buttonNames : List String :=
  ["x", "y", "width", "height", "text", "font", "fontsize", "color", "background", "backgroundHover",
    "borderColour", "borderHoverColour", "borderWeight", "bold", "italic"]

def labelNames : List String :=
  ["x", "y", "maxwidth", "text", "font", "fontSize", "bold", "italic", "color", "background",
    "transparentBackground", "visible", "centered"]

def sliderNames : List String :=
  ["x", "y", "width", "height", "handleWidth", "color", "sliderColor", "handleColor", "sliderPercent",
    "visible"]

def textBoxNames : List String :=
  ["x", "y", "width", "height", "placeholder", "font", "fontSize", "color", "background",
    "backgroundHover", "borderColour", "borderHoverColour", "borderWeight", "bold", "italic", "minlen",
    "maxlen", "borderRadius"]

def namesOf? : String → Option (List String)
  | "Button" => some (buttonNames ++ ["borderRadius"])
  | "LinkButton" => some (buttonNames ++ ["link"])
  | "AppButton" => some (buttonNames ++ ["app"])
  | "ImageButton" => some ["x", "y", "width", "height", "image", "hoverImage"]
  | "Label" => some labelNames
  | "VerticalSlider" | "HorizontalSlider" => some sliderNames
  | "TextBox" => some textBoxNames
  | _ => none

/-- Refuses options of other names. -/
def only (o : Options) (names : List String) : Except Fault Unit :=
  if o.all fun p => names.contains p.1 then .ok () else .error .wrongKind

end Options

namespace Item

/-- Makes a widget of a class. -/
def create? (kind : String) (o : Options) (now : Float) : Except Fault Item := do
  match Options.namesOf? kind with
  | none => throw .missingMember
  | some names => o.only names
  match kind with
  | "Button" => return .button (o.button .plain)
  | "LinkButton" => return .button (o.button (.link (o.get "link" "https://google.com/")))
  | "AppButton" =>
    return .button (o.button (.app (o.get "app" "C:\\Windows\\System32\\notepad.exe")))
  | "ImageButton" => return .button o.pictureButton
  | "Label" => return .label o.label
  | "VerticalSlider" => return .slider (o.slider .vertical 30 30 5 200)
  | "HorizontalSlider" => return .slider (o.slider .horizontal 0 5 200 5)
  | _ => return .textBox (o.textBox now)

/-- The class of a widget. -/
def kind : Item → String
  | .button b =>
    match b.purpose with
    | .plain => "Button"
    | .link _ => "LinkButton"
    | .app _ => "AppButton"
    | .picture _ _ => "ImageButton"
  | .label _ => "Label"
  | .slider s =>
    match s.orientation with
    | .vertical => "VerticalSlider"
    | .horizontal => "HorizontalSlider"
  | .textBox _ => "TextBox"

/-- The arguments of another `__init__`. -/
def options? (item : Item) (args : List Value) : Except Fault Options :=
  let names := (Options.namesOf? item.kind).getD []
  if names.length < args.length then .error .wrongKind else .ok (names.zip args)

/-! ## Attributes -/

/-- Reads a widget of any class. -/
def ofAny {β : Type} (f : {α : Type} → [Attributed α] → α → β) : Item → β
  | .button b => f b
  | .label l => f l
  | .slider s => f s
  | .textBox b => f b

/-- Changes a widget of any class. -/
def onAny (f : {α : Type} → [Attributed α] → α → α) : Item → Item
  | .button b => .button (f b)
  | .label l => .label (f l)
  | .slider s => .slider (f s)
  | .textBox b => .textBox (f b)

def get? (name : String) : Item → Option Value := ofAny (Attributed.get? · name)

def set (name : String) (v : Value) : Item → Item := onAny (Attributed.set · name v)

def drop (name : String) : Item → Item := onAny (Attributed.drop · name)

def clear : Item → Item := onAny Attributed.clear

def attributes : Item → Table Value := ofAny Attributed.all

/-- `setattr`. `__dict__` replaces all attributes, and others cannot be set. -/
def assign? (name : String) (v : Value) (item : Item) : Except Fault Item :=
  match name, v with
  | "__class__", _ => .error .wrongKind
  | "__weakref__", _ => .error .missingMember
  | "__dict__", .record fields => .ok (fields.foldl (fun item (k, v) => item.set k v) item.clear)
  | "__dict__", _ => .error .wrongKind
  | name, v => .ok (item.set name v)

/-! ## Use -/

/-- What a method is given. -/
inductive Given where
  | event (e : Event)
  | value (v : Value)

def Given.toValue : Given → Value
  | .event _ => .object "Event" "<Event>" 0
  | .value v => v

def Given.event? : Given → Except Fault Event
  | .event e => .ok e
  | .value _ => .error .missingMember

/-- A method that answers `None`. -/
def silent {σ ε : Type} (r : Reaction σ ε Unit) : Reaction σ ε Value := do
  r
  return .null

/-- Refuses a method that was given other things than it takes, or that is unknown. -/
def misused {σ ε : Type} (actions : List String) (name : String) : Reaction σ ε Value :=
  throw (if actions.contains name then .wrongKind else .missingMember)

/-- The methods of the classes. -/
def buttonActions : List String := ["draw", "isHover", "getPressed"]

def labelActions : List String := ["draw", "changeText", "toggleVisibility", "getVisibility"]

def sliderActions : List String := buttonActions ++ ["getPercent", "setPercent", "setVisible"]

def textBoxActions : List String := buttonActions ++ ["backspacePressed", "textAppend", "typing", "events"]

def actions : Item → List String
  | .button _ => buttonActions
  | .label _ => labelActions
  | .slider _ => sliderActions
  | .textBox _ => textBoxActions

/-- Calls a method of a button. -/
def useButton (window : Surface) (host : Host) (name : String) (args : List Given) :
    Reaction Button Call Value :=
  match name, args with
  | "draw", [] => silent (Button.draw window host.images host.mouse)
  | "isHover", [] => return .bool (← Button.notice host.mouse)
  | "getPressed", [given] => do
    return .bool (← Button.press (← Reaction.ofExcept given.event?))
  | name, _ => misused buttonActions name

/-- Calls a method of a label. -/
def useLabel (window : Surface) (name : String) (args : List Given) : Reaction Label Call Value :=
  match name, args with
  | "draw", [] => silent (Label.draw window)
  | "changeText", [given] => silent (Label.changeText given.toValue)
  | "toggleVisibility", [] => silent Label.toggleVisibility
  | "getVisibility", [] => do Reaction.ofExcept (← Reaction.state).visible.present?
  | name, _ => misused labelActions name

/-- Calls a method of a slider. -/
def useSlider (host : Host) (name : String) (args : List Given) :
    Slider.Doing Value Value :=
  let mouse : Value × Value := (.num host.mouse.1, .num host.mouse.2)
  match name, args with
  | "draw", [] => silent (Slider.draw mouse)
  | "isHover", [] => silent (Slider.isHover mouse)
  | "getPressed", [given] => do
    return .bool (← Slider.press (← Reaction.ofExcept given.event?))
  | "getPercent", [] => do Reaction.ofExcept (← Reaction.state).percent.present?
  | "setPercent", [given] => silent (Slider.setPercent given.toValue)
  | "setVisible", [given] => silent (Slider.setVisible given.toValue)
  | name, _ => misused sliderActions name

/-- Calls a method of a text box. -/
def useTextBox (window : Surface) (host : Host) (name : String) (args : List Given) :
    Reaction TextBox Call Value :=
  match name, args with
  | "draw", [] => do
    silent (TextBox.draw window host.mouse (← Reaction.ofExcept host.time))
  | "isHover", [] => return .bool (← TextBox.notice host.mouse)
  | "backspacePressed", [] => silent TextBox.backspace
  | "textAppend", [given] => silent (TextBox.append given.toValue)
  | "typing", [given] => do
    if !(← Reaction.ofExcept (holds? (← Reaction.state).active)) then return .null
    silent (TextBox.typing (← Reaction.ofExcept given.event?))
  | "events", [given] => do
    TextBox.can "getPressed"
    silent (TextBox.handle (← Reaction.ofExcept given.event?))
  | "getPressed", [given] => do
    return (← TextBox.press (← Reaction.ofExcept given.event?)).elim .null .bool
  | name, _ => misused textBoxActions name

def leftOpen : Value := .object "NotImplementedType" "NotImplemented" 0

/-- What every object can do; none if that is not its name. -/
def useCommon? (host : Host) (name : String) (args : List Value) :
    Option (Reaction Item Call Value) :=
  match name, args with
  | "__init__", args => some do
    let item ← Reaction.state
    let made ← Reaction.ofExcept (do create? item.kind (← item.options? args) (← host.time))
    Reaction.change fun item => made.attributes.foldl (fun item (k, v) => item.set k v) item
    return .null
  | "__class__", args => some do
    let item ← Reaction.state
    let made ← Reaction.ofExcept (do create? item.kind (← item.options? args) (← host.time))
    return .object made.kind "" 0
  | "__getattribute__", [.text name] => some do
    let item ← Reaction.state
    match item.get? name, name with
    | some v, _ => return v
    | none, "__dict__" => return .record item.attributes
    | none, "__class__" => return .object "type" item.kind 0
    | none, "__doc__" | none, "__weakref__" => return .null
    | none, name =>
      if item.actions.contains name || commonNames.contains name then return .object "method" name 0
      else throw .missingMember
  | "__setattr__", [.text name, v] => some do
    let item ← Reaction.ofExcept (assign? name v (← Reaction.state))
    Reaction.change fun _ => item
    return .null
  | "__delattr__", [.text name] => some do
    let item ← Reaction.state
    if (item.get? name).isSome then Reaction.change (drop name)
    else if name = "__dict__" then Reaction.change clear
    else throw (if name = "__class__" then .wrongKind else .missingMember)
    return .null
  | "__getstate__", [] => some do return .record (← Reaction.state).attributes
  | "__sizeof__", [] => some (return Value.int 24)
  | "__init_subclass__", [] => some (return .null)
  | "__subclasshook__", _ => some (return leftOpen)
  | "__eq__", [_] | "__ne__", [_] | "__lt__", [_] | "__le__", [_] | "__gt__", [_] | "__ge__", [_] =>
    some (return leftOpen)
  | name, _ => if commonNames.contains name then some (throw .wrongKind) else none
where
  commonNames : List String :=
    ["__init__", "__class__", "__getattribute__", "__setattr__", "__delattr__", "__getstate__",
      "__sizeof__", "__init_subclass__", "__subclasshook__", "__eq__", "__ne__", "__lt__", "__le__",
      "__gt__", "__ge__", "__str__", "__repr__", "__format__", "__hash__", "__dir__", "__new__",
      "__reduce__", "__reduce_ex__", "__doc__", "__module__", "__dict__", "__weakref__"]

/-- Calls a method of a widget in a window. An attribute cannot be called. -/
def use (window : Surface) (host : Host) (name : String) (args : List Given) :
    Reaction Item Call Value := do
  let item ← Reaction.state
  if (item.get? name).isSome then throw .wrongKind
  match useCommon? host name (args.map Given.toValue), item with
  | some r, _ => r
  | none, .button b => Reaction.ofPart .button b (useButton window host name args)
  | none, .label l => Reaction.ofPart .label l (useLabel window name args)
  | none, .slider s =>
    Reaction.ofPart .slider s ((useSlider host name args).relabel (Slider.Stroke.call window s))
  | none, .textBox b => Reaction.ofPart .textBox b (useTextBox window host name args)

end Item

end BlockStage.Widget
