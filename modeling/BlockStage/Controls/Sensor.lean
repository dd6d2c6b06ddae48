import BlockStage.Arith
import BlockStage.Event

/-!
# Sensors

Most sensors are switches, which events press and release. A stick is an axis with all its positions;
it has a value, and is not pressed.
-/

namespace BlockStage.Controls

/-- A `JoyAxis`. -/
structure Stick where
  axis : Value
  reversed : Value := .bool false
  /-- A smaller deflection counts as none. -/
  threshold : Value := Value.float 0.2
  sensitivity : Value := Value.float 1.0
  pad : Value := Value.int 0

/-- `JoyAxis.value` -/
def Stick.value? (s : Stick) (e : Event) : Except Fault Value := do
  let v ← e.detail? "value"
  if ← Arith.lt (← Arith.abs v) s.threshold then return Value.int 0
  let scaled ← Arith.mul v s.sensitivity
  if s.reversed.holds then scaled.neg? else return scaled

/-- A `ButtonInput` or a `JoyAxis`. -/
inductive Sensor where
  | key (code : Value)
  | padButton (button pad : Value)
  /-- An axis used as a switch: it is pressed above the threshold, or else below it. -/
  | lever (axis threshold above pad : Value)
  | closing
  /-- A switch of no kind, which cannot be read. -/
  | blank
  | stick (s : Stick)
  | foreign (v : Value)

namespace Sensor

/-- An event of one of two kinds, with these details. -/
def concerns? (e : Event) (down up : Int) (details : List (String × Value)) :
    Except Fault Bool :=
  if e.isKind down || e.isKind up then
    details.foldlM (fun ok d => do
      if ok then return (← e.detail? d.1).same d.2 else return false) true
  else .ok false

/-- `match` -/
def matches? (s : Sensor) (e : Event) : Except Fault Bool :=
  match s with
  | .key code => concerns? e Event.keyDown Event.keyUp [("key", code)]
  | .padButton button pad =>
    concerns? e Event.padDown Event.padUp [("joy", pad), ("button", button)]
  | .lever axis _ _ pad =>
    concerns? e Event.stickMoved Event.stickMoved [("joy", pad), ("axis", axis)]
  | .closing => .ok (e.isKind Event.windowClosed)
  | .blank => .error .abstractOperation
  | .stick s => concerns? e Event.stickMoved Event.stickMoved [("joy", s.pad), ("axis", s.axis)]
  | .foreign _ => .error .missingMember

/-- `pressed` -/
def pressed? (s : Sensor) (e : Event) : Except Fault Bool :=
  match s with
  | .key _ => .ok (e.isKind Event.keyDown)
  | .padButton _ _ => .ok (e.isKind Event.padDown)
  | .lever _ threshold above _ => do
    return above.same (.bool (← Arith.lt threshold (← e.detail? "value")))
  | .closing => .ok true
  | .blank => .error .abstractOperation
  | .stick _ | .foreign _ => .error .missingMember

/-- `value` -/
def value? (s : Sensor) (e : Event) : Except Fault Value :=
  match s with
  | .stick s => s.value? e
  | _ => .error .missingMember

/-- Whether an event presses a sensor, if it concerns it (`ButtonInput.update`). -/
def reading? (s : Sensor) (e : Event) : Except Fault (Option Bool) := do
  if ← s.matches? e then return some (← s.pressed? e) else return none

/-- The attributes by which sensors are compared. -/
def traits : Sensor → List Value
  | .key code => [code]
  | .padButton button pad => [button, pad]
  | .lever axis threshold above pad => [axis, threshold, above, pad]
  | .closing | .blank => []
  | .stick s => [s.axis, s.reversed, s.threshold, s.sensitivity, s.pad]
  | .foreign v => [v]

/-- The sensor that a value stands for among keys. -/
def ofCode (v : Value) : Sensor := if v.whole?.isSome then .key v else .foreign v

/-- Sensors can be kept in a table. -/
def distinct? (sensors : List Sensor) : Except Fault Unit :=
  if sensors.all fun s => s.traits.all Value.canName then .ok () else .error .wrongKind

/-- `max` -/
def larger? (v w : Value) : Except Fault Value := do
  let size ← Arith.abs w
  if ← Arith.lt (← Arith.abs v) size then return w else return v

/-- The largest value of the sticks that an event concerns. -/
def largest? (e : Event) : List Sensor → Option Value → Except Fault (Option Value)
  | [], best => .ok best
  | s :: rest, best => do
    if ← s.matches? e then
      largest? e rest (some (← larger? (best.getD (Value.int 0)) (← s.value? e)))
    else largest? e rest best

end Sensor

/-- Which sensors are held. -/
abbrev Held := List (Sensor × Bool)

namespace Held

def released (sensors : List Sensor) : Held := sensors.map (·, false)

/-- Reads an event. A fault keeps what was read before it. -/
def sense (e : Event) : Held → Held × Option Fault
  | [] => ([], none)
  | (s, down) :: rest =>
    match s.reading? e with
    | .error f => ((s, down) :: rest, some f)
    | .ok reading =>
      let (rest, fault) := sense e rest
      ((s, reading.getD down) :: rest, fault)

/-- Reads events up to the first fault. -/
def senseAll : List Event → Held → Held × Option Fault
  | [], held => (held, none)
  | e :: rest, held =>
    match held.sense e with
    | (held, some f) => (held, some f)
    | (held, none) => senseAll rest held

/-- How many sensors are held. -/
def count (held : Held) : Nat := held.countP (·.2)

end Held

end BlockStage.Controls
