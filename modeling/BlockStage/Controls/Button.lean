import BlockStage.Controls.Sensor
import BlockStage.Reaction

/-!
# Buttons

A button is pressed while at least one of its switches is held. It calls callbacks when it is pressed
or released; while it is held some are repeated.
-/

namespace BlockStage.Controls

/-- A `RepeatCallback`. -/
structure Repeat (α : Type) where
  callback : String
  delay : α
  repetitions : Nat := 0

/-- A `Button`. -/
structure Button (α : Type) where
  held : Held
  justPressed : Bool := false
  justReleased : Bool := false
  justDoublePressed : Bool := false
  always : List String := []
  onPress : List String := []
  onRelease : List String := []
  onDoublePress : List String := []
  repeats : List (Repeat α) := []
  /-- The time since the button was released. -/
  lastPress : α
  pressTime : α
  dt : α

namespace Button

variable {α : Type} [Arith α]

/-- `Button.__init__`. `never` is the time since a release that has not happened. -/
def create (never : α) (sensors : List Sensor) : Button α :=
  { held := Held.released sensors, lastPress := never, pressTime := Arith.ofInt 0,
    dt := Arith.ofInt 0 }

/-- `Button.pressed` -/
def pressed (b : Button α) : Bool := 0 < b.held.count

/-- The longest time from a release to a double press. -/
def doublePressTime? : Except Fault α := Arith.div (Arith.ofInt 1) (Arith.ofInt 10)

/-- `Button.double_pressed` -/
def doublePressed? (b : Button α) : Except Fault Bool := do
  if b.pressed then Arith.lt b.lastPress (← doublePressTime?) else return false

/-! ## A frame -/

/-- A button that was neither pressed nor released. -/
def quiet (b : Button α) : Button α :=
  { b with justPressed := false, justReleased := false, justDoublePressed := false }

/-- Repeated callbacks that have not been called. -/
def rewound (b : Button α) : List (Repeat α) := b.repeats.map fun r => { r with repetitions := 0 }

/-- `Button.actualise` -/
def actualise (events : List Event) : Reaction (Button α) String Unit := do
  Reaction.change quiet
  let before := (← Reaction.state).pressed
  let (held, fault) := (← Reaction.state).held.senseAll events
  Reaction.change fun b => { b with held := held }
  match fault with
  | some f => throw f
  | none => pure ()
  let b ← Reaction.state
  if !before then
    if b.pressed then
      Reaction.change fun b => { b with pressTime := Arith.ofInt 0, justPressed := true }
    if ← Reaction.ofExcept b.doublePressed? then
      Reaction.change fun b => { b with justDoublePressed := true }
  else if !b.pressed then
    Reaction.change fun b =>
      { b with lastPress := Arith.ofInt 0, justReleased := true, repeats := b.rewound }

/-- Calls the repeated callbacks whose time has come. A fault keeps the calls before it. -/
def callRepeats (pressTime : α) :
    List (Repeat α) → List (Repeat α) × List String × Option Fault
  | [] => ([], [], none)
  | r :: rest =>
    match (do Arith.le (← Arith.mul r.delay (Arith.ofInt r.repetitions)) pressTime) with
    | .error f => (r :: rest, [], some f)
    | .ok false =>
      let (rest, called, fault) := callRepeats pressTime rest
      (r :: rest, called, fault)
    | .ok true =>
      let (rest, called, fault) := callRepeats pressTime rest
      ({ r with repetitions := r.repetitions + 1 } :: rest, r.callback :: called, fault)

/-- The callbacks of a frame. -/
def due (b : Button α) : List String :=
  b.always ++ (if b.justPressed then b.onPress else []) ++
    (if b.justDoublePressed then b.onDoublePress else []) ++
    (if b.justReleased then b.onRelease else [])

/-- `Button.update` -/
def update (dt : α) : Reaction (Button α) String Unit := do
  let lastPress ← Reaction.ofExcept (Arith.add (← Reaction.state).lastPress dt)
  Reaction.change fun b => { b with lastPress := lastPress }
  if (← Reaction.state).pressed then
    let pressTime ← Reaction.ofExcept (Arith.add (← Reaction.state).pressTime dt)
    Reaction.change fun b => { b with pressTime := pressTime }
  Reaction.change fun b => { b with dt := dt }
  let b ← Reaction.state
  Reaction.emitAll b.due
  if b.pressed then
    let (repeats, called, fault) := callRepeats b.pressTime b.repeats
    Reaction.change fun b => { b with repeats := repeats }
    Reaction.emitAll called
    match fault with
    | some f => throw f
    | none => pure ()

/-! ## Callbacks -/

/-- `always_call`, `on_press`, `on_release` and `on_double_press`. -/
inductive Occasion where
  | always
  | press
  | release
  | doublePress

/-- Registers a callback. -/
def register (b : Button α) (occasion : Occasion) (callback : String) : Button α :=
  match occasion with
  | .always => { b with always := b.always.insert callback }
  | .press => { b with onPress := b.onPress.insert callback }
  | .release => { b with onRelease := b.onRelease.insert callback }
  | .doublePress => { b with onDoublePress := b.onDoublePress.insert callback }

/-- `Button.on_press_repeated` -/
def registerRepeated (b : Button α) (callback : String) (delay : α) : Button α :=
  { b with repeats := b.repeats ++ [{ callback := callback, delay := delay }] }

/-- `Button.remove` -/
def remove (b : Button α) (callback : String) : Button α :=
  { b with
    always := b.always.erase callback
    onPress := b.onPress.erase callback
    onRelease := b.onRelease.erase callback
    onDoublePress := b.onDoublePress.erase callback
    repeats := b.repeats.filter (·.callback != callback) }

end Button

end BlockStage.Controls
