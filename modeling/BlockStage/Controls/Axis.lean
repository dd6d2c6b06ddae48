import BlockStage.Controls.Sensor
import BlockStage.Reaction

/-!
# Axes

Keys push an axis to either side, smoothly if so asked, and sticks set it directly.
-/

namespace BlockStage.Controls

/-- An `Axis`. -/
structure Axis (α : Type) where
  negative : Held
  positive : Held
  sticks : List Sensor
  callbacks : List String := []
  /-- How long the keys take to push it all the way; none if not positive. -/
  smooth : α
  pushTime : α
  restTime : α
  push : Int := 0
  level : α
  deflection : Value := Value.int 0

/-- A `KeyPress` for each key. -/
def keySwitches? (keys : List Value) : Except Fault (List Sensor) := do
  if keys.any fun k => !k.canName then throw .wrongKind
  return (keys.foldl
    (fun seen k => if seen.any (·.same k) then seen else seen ++ [k]) []).map .key

namespace Axis

variable {α : Type} [Arith α]

/-- `Axis.__init__` -/
def create (negative positive sticks : List Sensor) (smooth : α) : Axis α :=
  { negative := Held.released negative, positive := Held.released positive, sticks := sticks,
    smooth := smooth, pushTime := Arith.ofInt 0, restTime := Arith.ofInt 0,
    level := Arith.ofInt 0 }

/-- `Axis.value`, between -1 and 1. -/
def value? (a : Axis Value) : Except Fault Value := do
  Arith.clamp (← Arith.add a.level a.deflection) (Value.int (-1)) (Value.int 1)

/-! ## A frame -/

/-- The keys, and the largest deflection of a stick if one moved. -/
structure Reading where
  positive : Held
  negative : Held
  deflection : Option Value := none

/-- Reads an event. -/
def Reading.sense (e : Event) (sticks : List Sensor) (r : Reading) : Reading × Option Fault :=
  match r.positive.sense e with
  | (positive, some f) => ({ r with positive := positive }, some f)
  | (positive, none) =>
    match r.negative.sense e with
    | (negative, some f) => ({ r with positive := positive, negative := negative }, some f)
    | (negative, none) =>
      let r := { r with positive := positive, negative := negative }
      match Sensor.largest? e sticks r.deflection with
      | .error f => (r, some f)
      | .ok deflection => ({ r with deflection := deflection }, none)

/-- Reads events up to the first fault. -/
def Reading.senseAll (sticks : List Sensor) : List Event → Reading → Reading × Option Fault
  | [], r => (r, none)
  | e :: rest, r =>
    match r.sense e sticks with
    | (r, some f) => (r, some f)
    | (r, none) => Reading.senseAll sticks rest r

/-- `Axis.actualise`. The sticks keep their deflection if none of them moved. -/
def actualise (events : List Event) : Reaction (Axis α) String Unit := do
  let a ← Reaction.state
  let (r, fault) := Reading.senseAll a.sticks events ⟨a.positive, a.negative, none⟩
  Reaction.change fun a => { a with positive := r.positive, negative := r.negative }
  match fault with
  | some f => throw f
  | none => pure ()
  Reaction.change fun a =>
    { a with
      push := (a.positive.count : Int) - a.negative.count
      deflection := r.deflection.getD a.deflection }

/-- The level if nothing pushes: it goes to zero, and stays there when it is nearer than one frame. -/
def settled? (level step : α) : Except Fault α := do
  let level ← if ← Arith.lt (Arith.ofInt 0) level then Arith.sub level step
    else Arith.add level step
  if ← Arith.le (← Arith.abs level) step then return Arith.ofInt 0 else return level

/-- The level after a frame. -/
def pushed? (a : Axis α) (dt : α) : Except Fault α := do
  if ← Arith.le a.smooth (Arith.ofInt 0) then return Arith.ofInt a.push
  let step ← Arith.div dt a.smooth
  if 0 < a.push then Arith.add a.level step
  else if a.push < 0 then Arith.sub a.level step
  else settled? a.level step

/-- `Axis.update` -/
def update (dt : α) : Reaction (Axis α) String Unit := do
  if (← Reaction.state).push != 0 then
    let time ← Reaction.ofExcept (Arith.add (← Reaction.state).pushTime dt)
    Reaction.change fun a => { a with pushTime := time, restTime := Arith.ofInt 0 }
  else
    Reaction.change fun a => { a with pushTime := Arith.ofInt 0 }
    let time ← Reaction.ofExcept (Arith.add (← Reaction.state).restTime dt)
    Reaction.change fun a => { a with restTime := time }
  let level ← Reaction.ofExcept (pushed? (← Reaction.state) dt)
  let level ← Reaction.ofExcept (Arith.clamp level (Arith.ofInt (-1)) (Arith.ofInt 1))
  Reaction.change fun a => { a with level := level }
  Reaction.emitAll (← Reaction.state).callbacks

/-- `Axis.always_call` -/
def register (a : Axis α) (callback : String) : Axis α :=
  { a with callbacks := a.callbacks.insert callback }

/-- `Axis.remove` -/
def remove (a : Axis α) (callback : String) : Axis α :=
  { a with callbacks := a.callbacks.erase callback }

end Axis

end BlockStage.Controls
