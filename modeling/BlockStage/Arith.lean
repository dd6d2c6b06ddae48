import BlockStage.Value.Display

/-!
# Arithmetic

Coordinates, input devices and sliders are computed with any kind of number that has these operations.
The stage computes with `Value`s, where an operation may fail.
-/

namespace BlockStage

/-- A kind of number. -/
class Arith (α : Type) where
  ofInt : Int → α
  add : α → α → Except Fault α
  sub : α → α → Except Fault α
  mul : α → α → Except Fault α
  div : α → α → Except Fault α
  abs : α → Except Fault α
  half : α → Except Fault α
  lt : α → α → Except Fault Bool
  le : α → α → Except Fault Bool
  /-- The integer that a value is converted to: a number loses its fraction, toward zero. -/
  truncate? : α → Except Fault Int
  round? : α → Except Fault Int
  text? : α → Except Fault String
  present? : α → Except Fault α := .ok

namespace Arith

/-- `clamp`: keeps a number between two bounds. Bounds in the wrong order leave it as it is. -/
def clamp {α : Type} [Arith α] (x low high : α) : Except Fault α := do
  if ← lt high low then return x
  if ← lt x low then return low
  if ← lt high x then return high
  return x

end Arith

instance : Arith Value where
  ofInt := Value.int
  add := Value.add?
  sub := Value.sub?
  mul := Value.mul?
  div := Value.div?
  abs v := return .num (← v.number?).abs
  half v := return .num (← v.number?).half
  lt := Value.lt?
  le := Value.le?
  truncate? := Value.toInt?
  round? v := v.number?.bind Number.round?
  text? := Value.display?
  present? := Value.present?

end BlockStage
