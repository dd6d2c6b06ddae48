import BlockStage.Script.Arguments

/-!
# Operator blocks

Reporters on numbers, texts and truth values. They take any value and return a text, apart from the one
that draws a random number.
-/

namespace BlockStage

/-- The `operator_` methods. -/
inductive Operator where
  | add
  | subtract
  | multiply
  | divide
  | random
  | greater
  | less
  | equals
  | and
  | or
  | not
  | join
  | letterOf
  | length
  | contains
  | mod
  | round
  deriving DecidableEq, Repr

namespace Operator

/-- The block of an opcode. -/
def ofName? : String → Option Operator
  | "operator_add" => some add
  | "operator_subtract" => some subtract
  | "operator_multiply" => some multiply
  | "operator_divide" => some divide
  | "operator_random" => some random
  | "operator_gt" => some greater
  | "operator_lt" => some less
  | "operator_equals" => some equals
  | "operator_and" => some and
  | "operator_or" => some or
  | "operator_not" => some not
  | "operator_join" => some join
  | "operator_letter_of" => some letterOf
  | "operator_length" => some length
  | "operator_contains" => some contains
  | "operator_mod" => some mod
  | "operator_round" => some round
  | _ => none

/-- How far apart close doubles may be, relative to the larger one. -/
def closeness : Float := 1e-9

/-- `math.isclose` -/
def isClose (a b : Float) : Bool :=
  if a == b then true
  else if a.isInf || b.isInf then false
  else
    let gap := (b - a).abs
    gap ≤ (closeness * b).abs || gap ≤ (closeness * a).abs || gap ≤ 0.0

/-- An operation on two arguments as doubles. -/
def arithmetic (op : Float → Float → Except Fault Float) (args : Arguments) :
    Except Fault Value := do
  let a ← (← args.need "NUM1").asFloat?
  let b ← (← args.need "NUM2").asFloat?
  return .text (floatText (← op a b))

/-- Compares two arguments: as numbers if both are `IsNum`, and as texts otherwise. -/
def comparison (onNumbers : Float → Float → Bool) (onValues : Value → Value → Except Fault Bool)
    (args : Arguments) : Except Fault Value := do
  let a ← args.need "OPERAND1"
  if ← a.looksNumeric? then
    let b ← args.need "OPERAND2"
    if ← b.looksNumeric? then
      return Value.truth (onNumbers (← a.asFloat?) (← b.asFloat?))
    else return Value.truth (← onValues a b)
  else return Value.truth (← onValues a (← args.need "OPERAND2"))

/-- Two values in order; those that have no order stay as they are. -/
def sortPair (a b : Number) : Number × Number := if b.lt a then (b, a) else (a, b)

/-- `operator_random`: a double if a bound is written with a point, and an integer otherwise. -/
def drawRandom (args : Arguments) : Act Value := do
  let low ← args.need "FROM"
  let high ← args.need "TO"
  if ← (← low.add? high).contains? (.text ".") then
    let (a, b) := sortPair (.float (← low.asFloat?)) (.float (← high.asFloat?))
    return .num (← Host.uniform (← Act.chance) a b)
  else
    let a := low.asInt
    let b := high.asInt
    return Value.int (Host.pick (← Act.chance) (min a b) (max a b))

/-- What an operator makes of its operands. One that draws a number has no rule. -/
def rule? : Operator → Option (Arguments → Except Fault Value)
  | add => some (arithmetic fun a b => .ok (a + b))
  | subtract => some (arithmetic fun a b => .ok (a - b))
  | multiply => some (arithmetic fun a b => .ok (a * b))
  | divide => some (arithmetic fun a b => if b == 0.0 then .error .divisionByZero else .ok (a / b))
  | random => none
  | greater => some (comparison (fun a b => b < a) fun a b => b.lt? a)
  | less => some (comparison (fun a b => a < b) fun a b => a.lt? b)
  | equals => some (comparison isClose fun a b => .ok (a.same b))
  | and => some fun args =>
    .ok (Value.truth ((args.orFalse "OPERAND1").asBool && (args.orFalse "OPERAND2").asBool))
  | or => some fun args =>
    .ok (Value.truth ((args.orFalse "OPERAND1").asBool || (args.orFalse "OPERAND2").asBool))
  | not => some fun args => .ok (Value.truth !(args.orFalse "OPERAND").holds)
  | join => some fun args => do
    let first ← args.need "STRING1"
    let second ← args.need "STRING2"
    return .text (first.asText ++ second.asText)
  | letterOf => some fun args => do
    let whole ← args.need "STRING"
    let place ← args.need "LETTER"
    return .text (← whole.at? place.asInt).asText
  | length => some fun args => do
    let whole ← args.need "STRING"
    return .text (natText (← whole.length?))
  | contains => some fun args => do
    let part ← args.need "STRING2"
    let whole ← args.need "STRING1"
    return Value.truth (← whole.contains? part)
  | mod => some fun args => do
    let a ← args.need "NUM1"
    let b ← args.need "NUM2"
    return .text (Value.num (← Number.mod (.int a.asInt) (.int b.asInt))).asText
  | round => some fun args => do
    let a ← args.need "NUM"
    return .text (Value.int (← Binary.round? (← a.asFloat?))).asText

/-- What an operator block does. -/
def act (me : Nat) (flag : Value) (op : Operator) : Act Value := do
  let args ← Arguments.eval me flag
  match op.rule? with
  | some rule => rule args
  | none => drawRandom args

end Operator

end BlockStage
