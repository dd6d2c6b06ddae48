import BlockStage.Controls.Axis
import BlockStage.Controls.Button

/-!
# Boards

Each frame all devices read the events, and then time passes for all of them.
-/

namespace BlockStage.Controls

/-- A button or an axis. -/
inductive Device where
  | button (b : Button Value)
  | axis (a : Axis Value)

namespace Device

/-- `Button(*keys)` -/
def button? (sensors : List Sensor) : Except Fault Device := do
  Sensor.distinct? sensors
  return .button (Button.create (Value.float (-Binary.infinity)) sensors)

/-- `Axis(negative, positive, *axis, smooth=smooth)` -/
def axis? (negative positive : List Value) (sticks : List Sensor) (smooth : Value) :
    Except Fault Device := do
  let negative ← keySwitches? negative
  let positive ← keySwitches? positive
  Sensor.distinct? sticks
  return .axis (Axis.create negative positive sticks smooth)

/-- `actualise` of a device. -/
def actualise (events : List Event) : Reaction Device String Unit := do
  match ← Reaction.state with
  | .button b => Reaction.ofPart .button b (Button.actualise events)
  | .axis a => Reaction.ofPart .axis a (Axis.actualise events)

/-- `update` of a device. -/
def update (dt : Value) : Reaction Device String Unit := do
  match ← Reaction.state with
  | .button b => Reaction.ofPart .button b (Button.update dt)
  | .axis a => Reaction.ofPart .axis a (Axis.update dt)

/-- A frame whose events cannot be read: a button forgets the last one. -/
def neglect : Reaction Device String Unit := do
  match ← Reaction.state with
  | .button b => Reaction.change fun _ => .button b.quiet
  | .axis _ => pure ()
  throw .wrongKind

/-- The names of the methods. -/
def members : Device → List String
  | .button _ => ["pressed", "double_pressed", "just_pressed", "just_double_pressed",
      "just_released", "last_press", "press_time", "dt", "update", "actualise"]
  | .axis _ => ["value", "non_zero_time", "zero_time", "update", "actualise"]

/-- Registers a callback. An axis has only `always_call`. -/
def register (occasion : Button.Occasion) (callback : String) : Reaction Device String Unit := do
  match ← Reaction.state, occasion with
  | .button b, occasion => Reaction.change fun _ => .button (b.register occasion callback)
  | .axis a, .always => Reaction.change fun _ => .axis (a.register callback)
  | .axis _, _ => throw .missingMember

/-- `Button.on_press_repeated` -/
def registerRepeated (callback : String) (delay : Value) : Reaction Device String Unit := do
  match ← Reaction.state with
  | .button b => Reaction.change fun _ => .button (b.registerRepeated callback delay)
  | .axis _ => throw .missingMember

/-- `remove` of a device. -/
def remove (callback : String) : Reaction Device String Unit :=
  Reaction.change fun
    | .button b => .button (b.remove callback)
    | .axis a => .axis (a.remove callback)

end Device

/-- An `Inputs`: devices by name, and the time of the last frame. -/
structure Board where
  devices : Table Device := []
  lastTime : Float

namespace Board

def put (name : String) (d : Device) : Reaction Board String Unit :=
  Reaction.change fun b => { b with devices := Table.put b.devices name d }

/-- Uses a device by its name. -/
def withDevice (name : String) (r : Reaction Device String Unit) : Reaction Board String Unit := do
  match Table.get? (← Reaction.state).devices name with
  | none => throw .missingKey
  | some d =>
    let (answer, d, called) := r.react d
    put name d
    Reaction.emitAll called
    Reaction.ofExcept answer

/-- All devices in turn, up to the first fault. -/
def reactAll (r : Reaction Device String Unit) :
    List (String × Device) → List (String × Device) × List String × Except Fault Unit
  | [] => ([], [], .ok ())
  | (name, d) :: rest =>
    match r.react d with
    | (.error f, d, called) => ((name, d) :: rest, called, .error f)
    | (.ok (), d, called) =>
      let (rest, more, answer) := reactAll r rest
      ((name, d) :: rest, called ++ more, answer)

def withAll (r : Reaction Device String Unit) : Reaction Board String Unit := do
  let (devices, called, answer) := reactAll r (← Reaction.state).devices
  Reaction.change fun b => { b with devices := devices }
  Reaction.emitAll called
  Reaction.ofExcept answer

/-- `Inputs.trigger` -/
def trigger (events : List Event) (now : Float) : Reaction Board String Unit := do
  withAll (Device.actualise events)
  let dt := now - (← Reaction.state).lastTime
  Reaction.change fun b => { b with lastTime := now }
  withAll (Device.update (Value.float dt))

end Board

end BlockStage.Controls
